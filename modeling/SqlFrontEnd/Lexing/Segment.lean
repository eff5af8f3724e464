import SqlFrontEnd.Lexing.Diagnostic
import SqlFrontEnd.Lexing.Keyword
import SqlFrontEnd.Lexing.Rules
import SqlFrontEnd.Token.Basic

/-!
# Cutting a source into segments

A source is cut into consecutive segments, each the item that starts where the one before it ended.
Blanks and comments are segments like any other; only when segments are turned into tokens are they
left out.  So the segments account for every code point of the source, and places can be found by
counting.

* `Segment`: an item and its text.
* `first`: the segment at the start of a text, by the order of priority.
* `segments`: the whole text.
* `Segment.token?`: the token that a segment gives at a place.
* `tokenize`: the tokens of a source.
* `segments_flatten`: the segments of a source make it up.
-/

namespace SqlFrontEnd

namespace Lexing

/-- What a segment is.  Items that report a fault come last. -/
inductive Item where
  | blank
  | lineComment
  | blockComment
  | word
  | number
  | string
  | operator (symbol : Operator)
  | delimiter (symbol : Delimiter)
  | fault (diagnostic : Diagnostic)
deriving DecidableEq, Repr

/-- A piece of a source. -/
structure Segment where
  item : Item
  text : Text
deriving DecidableEq, Repr

/-- A block comment whose opening mark has been read. -/
def blockComment (c : CodePoint) (s : Text) : Segment × Text :=
  match throughMark s with
  | some cut => (⟨.blockComment, c :: cut.text⟩, cut.rest)
  | none => (⟨.fault .unclosedComment, c :: s⟩, [])

/-- A string literal whose opening quote has been read. -/
def stringLiteral (c : CodePoint) (s : Text) : Segment × Text :=
  match throughQuote s with
  | some cut => (⟨.string, c :: cut.text⟩, cut.rest)
  | none => (⟨.fault .unclosedString, c :: s⟩, [])

/-- The longest run of a class, as an item. -/
def runOf (item : Item) (p : CodePoint → Bool) (s : Text) : Segment × Text :=
  (⟨item, (Cut.run p s).text⟩, (Cut.run p s).rest)

/-- One code point by itself: an operator, a delimiter, or nothing known. -/
def singleItem (c : CodePoint) : Item :=
  match singleOperator? c with
  | some symbol => .operator symbol
  | none =>
    match delimiter? c with
    | some symbol => .delimiter symbol
    | none => .fault (.invalidCharacter c)

/-- An operator of two characters, or else one code point by itself. -/
def shortItem (c : CodePoint) : Text → Segment × Text
  | [] => (⟨singleItem c, [c]⟩, [])
  | d :: s =>
    match doubleOperator? c d with
    | some symbol => (⟨.operator symbol, [c, d]⟩, s)
    | none => (⟨singleItem c, [c]⟩, d :: s)

/-- The segment at the start of a text, and the text after it.  The order of the tests is the order
of priority. -/
def first (c : CodePoint) (s : Text) : Segment × Text :=
  if c.holds Text.isBlank then (⟨.blank, [c]⟩, s)
  else if c = '-' ∧ s.head? = some (.char '-') then runOf .lineComment inLine (c :: s)
  else if c = '#' then blockComment c s
  else if c.holds Text.isLetter then runOf .word isWordPart (c :: s)
  else if c.holds Text.isDigit then runOf .number isNumberPart (c :: s)
  else if c = '\'' then stringLiteral c s
  else shortItem c s

/-! ## The first segment is a piece of the text

It is not empty, so what remains is shorter, and nothing between the two is lost. -/

theorem blockComment_append (c : CodePoint) (s : Text) :
    (blockComment c s).1.text ++ (blockComment c s).2 = c :: s := by
  unfold blockComment
  split
  · next h => simp [throughMark_append h]
  · simp

theorem stringLiteral_append (c : CodePoint) (s : Text) :
    (stringLiteral c s).1.text ++ (stringLiteral c s).2 = c :: s := by
  unfold stringLiteral
  split
  · next h => simp [throughQuote_append h]
  · simp

theorem runOf_append (item : Item) (p : CodePoint → Bool) (s : Text) :
    (runOf item p s).1.text ++ (runOf item p s).2 = s := Cut.run_append p s

theorem shortItem_append (c : CodePoint) (s : Text) :
    (shortItem c s).1.text ++ (shortItem c s).2 = c :: s := by
  cases s with
  | nil => rfl
  | cons d s => rw [shortItem]; split <;> rfl

/-- **Nothing is lost.**  The first segment and the text after it make up the text. -/
theorem first_append (c : CodePoint) (s : Text) :
    (first c s).1.text ++ (first c s).2 = c :: s := by
  unfold first
  repeat' split
  · rfl
  · exact runOf_append ..
  · exact blockComment_append c s
  · exact runOf_append ..
  · exact runOf_append ..
  · exact stringLiteral_append c s
  · exact shortItem_append c s

theorem runOf_text_ne_nil {item : Item} {p : CodePoint → Bool} {c : CodePoint} (h : p c = true)
    (s : Text) : (runOf item p (c :: s)).1.text ≠ [] := by
  simp [runOf, Cut.run, h]

/-- **Progress.**  The first segment is not empty. -/
theorem first_text_ne_nil (c : CodePoint) (s : Text) : (first c s).1.text ≠ [] := by
  unfold first
  split
  · simp
  · split
    · next h => exact runOf_text_ne_nil (by simp [inLine, h.1]) s
    · split
      · unfold blockComment; split <;> simp
      · split
        · next h => exact runOf_text_ne_nil (isWordPart_of_isLetter h) s
        · split
          · next h => exact runOf_text_ne_nil (isNumberPart_of_isDigit h) s
          · split
            · unfold stringLiteral; split <;> simp
            · cases s with
              | nil => simp [shortItem]
              | cons d s => rw [shortItem]; split <;> simp

theorem length_first_lt (c : CodePoint) (s : Text) :
    (first c s).2.length < (c :: s).length := by
  have h := congrArg List.length (first_append c s)
  have h' := List.length_pos_iff.2 (first_text_ne_nil c s)
  simp only [List.length_append] at h
  omega

/-! ## The whole text -/

/-- The segments of a text. -/
def segments : Text → List Segment
  | [] => []
  | c :: s => (first c s).1 :: segments (first c s).2
termination_by s => s.length
decreasing_by exact length_first_lt c s

/-- **Reconstruction.**  The segments of a text make it up. -/
theorem segments_flatten (s : Text) : (segments s).flatMap (·.text) = s := by
  fun_induction segments s with
  | case1 => rfl
  | case2 c s ih => rw [List.flatMap_cons, ih, first_append]

namespace Segment

/-- The kind and the lexeme of the token that a segment gives at a place; blanks and comments give
none. -/
def token? (policy : KeywordCase) (p : Place) (segment : Segment) : Option Token :=
  let give (kind : TokenKind) (lexeme : Text) : Token := ⟨kind, lexeme, p.line, p.column⟩
  match segment.item with
  | .blank | .lineComment | .blockComment => none
  | .word => some (give (wordKind policy segment.text) segment.text)
  | .number => some (give .number segment.text)
  | .string => some (give .string segment.text)
  | .operator symbol => some (give (.operator symbol) segment.text)
  | .delimiter symbol => some (give (.delimiter symbol) segment.text)
  | .fault diagnostic => some (give .error (diagnostic.message p))

end Segment

/-- The tokens of consecutive segments, the first of which starts at the given place. -/
def tokensFrom (policy : KeywordCase) : Place → List Segment → List Token
  | _, [] => []
  | p, segment :: rest =>
    (segment.token? policy p).toList ++ tokensFrom policy (p.after segment.text) rest

end Lexing

/-- The tokens of a source, in order.  Faults are reported among them. -/
def tokenize (policy : KeywordCase) (source : Text) : List Token :=
  Lexing.tokensFrom policy .start (Lexing.segments source)

end SqlFrontEnd
