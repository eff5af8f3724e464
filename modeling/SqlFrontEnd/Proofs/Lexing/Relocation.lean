import Mathlib
import SqlFrontEnd.Proofs.Lexing.Position
import SqlFrontEnd.Proofs.Lexing.Segmentation

/-!
# Moving tokens to another place

A text that is read on its own starts at line one, column one.  As a part of a longer source it
starts elsewhere, and its tokens are told at other places: those of its first line move in line and
column, later ones in their line alone, and a diagnostic names the new place.

`Token.relocate` moves one token, and **`tokensFrom_after`** says that this is all that happens: the
tokens of the same segments read from another place on are the relocated ones.
-/

namespace SqlFrontEnd

open Place Lexing

/-- How a diagnostic names a place. -/
def Place.wording (line column : ℤ) : Text :=
  Text.ofString (" line " ++ Decimal.integerText line ++ ", column " ++ Decimal.integerText column)

/-- A token of a text, told where the text starts at `base`.  The place at the end of a diagnostic
is replaced. -/
def Token.relocate (base : Place) (t : Token) : Token :=
  let line : ℤ := base.line + (t.line - 1)
  let column : ℤ := if t.line = 1 then base.column + (t.column - 1) else t.column
  { t with
    lexeme :=
      if t.isError then
        t.lexeme.rdrop (wording t.line t.column).length ++ wording line column
      else t.lexeme
    line := line
    column := column }

/-! ## Places -/

/-- The line after a text is counted on from where the text starts. -/
lemma Place.line_after (base : Place) (s : Text) :
    ((base.after s).line : ℤ) = base.line + ((start.after s).line - 1) := by
  simp only [after_eq, start]
  omega

/-- The column after a text is counted on from where the text starts while the text is on its first
line, and does not depend on it later. -/
lemma Place.column_after (base : Place) (s : Text) :
    ((base.after s).column : ℤ) =
      if ((start.after s).line : ℤ) = 1 then (base.column : ℤ) + ((start.after s).column - 1)
      else ((start.after s).column : ℤ) := by
  simp only [after_eq, start]
  by_cases hs : .char '\n' ∈ s
  · have hpos := List.count_pos_iff.2 hs
    rw [if_pos hs, if_pos hs, if_neg (by omega)]
  · rw [if_neg hs, if_neg hs, List.count_eq_zero.2 hs, if_pos (by norm_num)]
    omega

lemma Text.ofString_append (s t : String) :
    Text.ofString (s ++ t) = Text.ofString s ++ Text.ofString t := by
  simp [Text.ofString, Text.ofChars]

/-- A diagnostic ends with the wording of its place. -/
lemma Diagnostic.ofString_message (diagnostic : Diagnostic) (p : Place) :
    Text.ofString (diagnostic.message p) =
      Text.ofString diagnostic.summary ++ wording p.line p.column := by
  have hnat (n : ℕ) : Decimal.integerText n = Decimal.text n := by
    rw [Decimal.integerText, if_neg (by omega), Int.natAbs_natCast]
  simp only [Diagnostic.message, wording, hnat, Text.ofString_append, List.append_assoc]

/-! ## Tokens -/

/-- A word is a keyword, the name of a type, or an identifier. -/
lemma wordKind_cases (policy : KeywordCase) (word : Text) :
    (∃ keyword, wordKind policy word = .keyword keyword) ∨ wordKind policy word = .typeName ∨
      wordKind policy word = .identifier := by
  unfold wordKind
  split
  · exact .inl ⟨_, rfl⟩
  · split
    · exact .inr (.inl rfl)
    · exact .inr (.inr rfl)

/-- No word is the report of a fault. -/
lemma wordKind_ne_error (policy : KeywordCase) (word : Text) : wordKind policy word ≠ .error := by
  obtain ⟨_, h⟩ | h | h := wordKind_cases policy word <;> simp [h]

/-- The token of a segment, read at another place. -/
lemma Lexing.Segment.token?_after (policy : KeywordCase) (base : Place) (before : Text)
    (segment : Segment) :
    segment.token? policy (base.after before) =
      (segment.token? policy (start.after before)).map (·.relocate base) := by
  obtain ⟨item, text⟩ := segment
  have hline := line_after base before
  have hcolumn := column_after base before
  cases item with
  | blank | lineComment | blockComment => rfl
  | word =>
      simp [Segment.token?, Token.relocate, Token.isError, wordKind_ne_error, hline, hcolumn]
  | number | string | operator | delimiter =>
      simp [Segment.token?, Token.relocate, Token.isError, hline, hcolumn]
  | fault diagnostic =>
      simp only [Segment.token?, Token.relocate, Token.isError, Option.map_some, beq_self_eq_true,
        if_true, Diagnostic.ofString_message, List.rdrop_append_length, ← hline, ← hcolumn]

/-- **The same segments read from another place on** give the relocated tokens. -/
lemma Lexing.tokensFrom_after (policy : KeywordCase) (base : Place) (before : Text)
    (segs : List Segment) :
    tokensFrom policy (base.after before) segs =
      (tokensFrom policy (start.after before) segs).map (·.relocate base) := by
  induction segs generalizing before with
  | nil => rfl
  | cons segment segs ih =>
      have htail := ih (before ++ segment.text)
      simp only [after_append] at htail
      rw [tokensFrom, tokensFrom, List.map_append, htail, Segment.token?_after]
      cases segment.token? policy (start.after before) <;> rfl

/-- The tokens of adjacent pieces. -/
lemma Lexing.tokensFrom_append (policy : KeywordCase) (p : Place) (a b : List Segment) :
    tokensFrom policy p (a ++ b) =
      tokensFrom policy p a ++ tokensFrom policy (p.after (a.flatMap (·.text))) b := by
  induction a generalizing p with
  | nil => rfl
  | cons segment a ih =>
      rw [List.cons_append, tokensFrom, tokensFrom, ih, List.flatMap_cons, after_append,
        List.append_assoc]

/-- **A source of two pieces.**  Where the first piece is cut as if the second were known to follow,
the tokens of the second follow those of the first, told where the second starts. -/
theorem tokenize_append {policy : KeywordCase} {s t : Text} {segs : List Segment}
    (h : Segmented t s segs) :
    tokenize policy (s ++ t) =
      tokensFrom policy .start segs ++ (tokenize policy t).map (·.relocate (start.after s)) := by
  have ht := tokensFrom_after policy (start.after s) [] (segments t)
  simp only [after_nil] at ht
  rw [tokenize, segments_append h, tokensFrom_append, h.flatMap_text, ht]
  rfl

end SqlFrontEnd
