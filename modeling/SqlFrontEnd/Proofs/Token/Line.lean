import Mathlib
import SqlFrontEnd.Proofs.Lexing.Diagnosis
import SqlFrontEnd.Token.Line

/-!
# The line of a token

The line that shows a token takes the lexeme as it stands, so it is one line where the lexeme has no
line break.  All that is put around the lexeme can be printed.  A report can be printed too, as it
quotes what it names, and a word, a number and a mark have no blank in them, which every line break
is.  What is left are the string literals: they keep the line breaks of the source.

* `isLineBreak` — the characters that end a line for some reader.
* `isPrintableText` — a text whose characters can be printed, and so has no line break.
* `mem_shown_iff`, `count_shown` — the line of a token has the line breaks of the lexeme.
* `kind_eq_string_of_isLineBreak` — of the tokens of a source only string literals have any.
-/

namespace SqlFrontEnd

namespace Text

/-- The code points that end a line: the controls from line feed to form feed and from file to
record separator, next line, and the line and paragraph separators. -/
def lineBreakRanges : RangeTable := [(0xA, 0xD), (0x1C, 0x1E), (0x85, 0x85), (0x2028, 0x2029)]

/-- Tests for a character that ends a line. -/
def isLineBreak (c : Char) : Bool := lineBreakRanges.contains c.toNat

/-- A line break is a blank that cannot be printed. -/
lemma isBlank_of_isLineBreak {c : Char} (h : isLineBreak c = true) :
    isBlank c = true ∧ isPrintable c = false := by
  have hall : ∀ r ∈ lineBreakRanges, ∀ n ∈ List.range' r.1 (r.2 + 1 - r.1),
      blankRanges.contains n = true ∧ unprintableRanges.contains n = true := by decide +kernel
  obtain ⟨hblank, hunprintable⟩ := RangeTable.forall_of_contains hall h
  exact ⟨hblank, by rw [isPrintable, hunprintable]; rfl⟩

/-! ## Text that can be printed -/

/-- A text of characters that can be printed. -/
def isPrintableText (text : Text) : Bool := text.all (·.holds isPrintable)

lemma not_mem_of_isPrintableText {text : Text} {b : CodePoint} (h : isPrintableText text = true)
    (hb : b.holds isLineBreak = true) : b ∉ text := by
  intro hmem
  have hprintable := List.all_eq_true.1 h b hmem
  cases b with
  | surrogate half => cases hb
  | char b =>
      rw [CodePoint.holds_char] at hprintable hb
      rw [(isBlank_of_isLineBreak hb).2] at hprintable
      cases hprintable

lemma isPrintableText_append {s t : Text} (hs : isPrintableText s = true)
    (ht : isPrintableText t = true) : isPrintableText (s ++ t) = true := by
  rw [isPrintableText, List.all_append, Bool.and_eq_true]
  exact ⟨hs, ht⟩

lemma isPrintableText_ofString_append {s t : String} (hs : isPrintableText (ofString s) = true)
    (ht : isPrintableText (ofString t) = true) : isPrintableText (ofString (s ++ t)) = true := by
  rw [ofString_append]
  exact isPrintableText_append hs ht

lemma isPrintableText_ofString {s : String} (h : ∀ c ∈ s.toList, isPrintable c = true) :
    isPrintableText (ofString s) = true := by
  rw [isPrintableText, ofString, ofChars, List.all_map, List.all_eq_true]
  exact h

lemma isPrintable_of_isDigit {c : Char} (h : Decimal.isDigit c = true) : isPrintable c = true := by
  have hall : ∀ n ∈ List.range' 0x30 10, unprintableRanges.contains n = false := by decide
  rw [Decimal.isDigit, Bool.and_eq_true, decide_eq_true_eq, decide_eq_true_eq] at h
  have hlow : 0x30 ≤ c.toNat := h.1
  have hhigh : c.toNat ≤ 0x39 := h.2
  rw [isPrintable, hall c.toNat (List.mem_range'_1.2 (by omega))]
  rfl

lemma isPrintableText_integerText (i : ℤ) :
    isPrintableText (ofString (Decimal.integerText i)) = true := by
  refine isPrintableText_ofString fun c hc => ?_
  obtain hdigit | rfl := Decimal.isIntegerPart_of_mem c hc
  · exact isPrintable_of_isDigit hdigit
  · decide

end Text

open Text Place Lexing

/-! ## Around the lexeme -/

namespace Token

/-- **All line breaks of a line are those of the lexeme**: what is put around the lexeme can be
printed. -/
lemma exists_shown_eq (t : Token) : ∃ before behind, t.shown = before ++ t.lexeme ++ behind ∧
    isPrintableText before = true ∧ isPrintableText behind = true := by
  have hname : ∀ kind ∈ TokenKind.all, isPrintableText (ofString kind.name) = true := by
    decide +kernel
  refine ⟨_, _, rfl, ?before, ?behind⟩
  case before =>
    refine isPrintableText_ofString_append (isPrintableText_ofString_append ?_ ?_) ?_
    · decide
    · exact hname t.kind (TokenKind.mem_all t.kind)
    · decide
  case behind =>
    refine isPrintableText_ofString_append (isPrintableText_ofString_append
      (isPrintableText_ofString_append (isPrintableText_ofString_append ?_ ?_) ?_) ?_) ?_
    · decide
    · exact isPrintableText_integerText t.line
    · decide
    · exact isPrintableText_integerText t.column
    · decide

lemma mem_shown_iff (t : Token) {b : CodePoint} (hb : b.holds isLineBreak = true) :
    b ∈ t.shown ↔ b ∈ t.lexeme := by
  obtain ⟨before, behind, hshown, hbefore, hbehind⟩ := t.exists_shown_eq
  rw [hshown, List.mem_append, List.mem_append,
    or_iff_left (not_mem_of_isPrintableText hbehind hb),
    or_iff_right (not_mem_of_isPrintableText hbefore hb)]

lemma count_shown (t : Token) {b : CodePoint} (hb : b.holds isLineBreak = true) :
    t.shown.count b = t.lexeme.count b := by
  obtain ⟨before, behind, hshown, hbefore, hbehind⟩ := t.exists_shown_eq
  rw [hshown, List.count_append, List.count_append,
    List.count_eq_zero.2 (not_mem_of_isPrintableText hbefore hb),
    List.count_eq_zero.2 (not_mem_of_isPrintableText hbehind hb), Nat.zero_add, Nat.add_zero]

end Token

/-! ## The lexeme -/

/-- A report can be printed, whatever character it names. -/
lemma Diagnostic.isPrintableText_summary (d : Diagnostic) :
    isPrintableText (ofString d.summary) = true := by
  cases d with
  | invalidCharacter c =>
      refine isPrintableText_ofString_append (isPrintableText_ofString_append ?_ ?_) ?_
      · decide
      · refine isPrintableText_ofString fun x hx => ?_
        rw [String.toList_ofList, quotedWith_singleton, List.mem_cons, List.mem_append,
          List.mem_singleton] at hx
        obtain rfl | hx | rfl := hx
        · decide
        · exact isPrintable_of_mem_shown (by decide) hx
        · decide
      · decide
  | unclosedComment => decide
  | unclosedString => decide

lemma Place.isPrintableText_wording (line column : ℤ) :
    isPrintableText (wording line column) = true := by
  refine isPrintableText_ofString_append (isPrintableText_ofString_append
    (isPrintableText_ofString_append ?_ ?_) ?_) ?_
  · decide
  · exact isPrintableText_integerText line
  · decide
  · exact isPrintableText_integerText column

namespace Lexing

/-- The items of words, of numbers and of marks. -/
def Item.isSolid : Item → Bool
  | .word | .number | .operator _ | .delimiter _ => true
  | _ => false

/-- **A word, a number and a mark have no blanks in them.** -/
lemma Item.Fits.not_isBlank {item : Item} {text rest : Text} (h : item.Fits text rest)
    (hsolid : item.isSolid = true) : ∀ c ∈ text, c.holds Text.isBlank = false := by
  have hone : ∀ entry ∈ oneCharacterItems, isBlank entry.1 = false := by decide
  have htwo : ∀ entry ∈ twoCharacterOperators,
      isBlank entry.1.1 = false ∧ isBlank entry.1.2 = false := by decide
  cases item with
  | word =>
      obtain ⟨c, run, rfl, hletter, hrun⟩ := h
      have hpart : ∀ d ∈ c :: run, isWordPart d = true :=
        List.forall_mem_cons.2 ⟨isWordPart_of_isLetter hletter, hrun.1⟩
      intro d hd
      exact not_isBlank_of_isWordPart (hpart d hd)
  | number =>
      obtain ⟨c, run, rfl, hdigit, hrun⟩ := h
      have hpart : ∀ d ∈ c :: run, isNumberPart d = true :=
        List.forall_mem_cons.2 ⟨isNumberPart_of_isDigit hdigit, hrun.1⟩
      intro d hd
      exact not_isBlank_of_isNumberPart (hpart d hd)
  | operator symbol =>
      obtain ⟨a, b, hmem, rfl⟩ | ⟨a, hmem, rfl⟩ := h
      · simpa using htwo _ hmem
      · simpa using hone _ hmem
  | delimiter symbol =>
      obtain ⟨a, hmem, rfl⟩ := h
      simpa using hone _ hmem
  | blank | lineComment | blockComment | string | fault => cases hsolid

end Lexing

/-- **Only string literals have line breaks.** -/
lemma kind_eq_string_of_isLineBreak {policy : KeywordCase} {source : Text} {t : Token}
    (ht : t ∈ tokenize policy source) {b : CodePoint} (hb : b.holds isLineBreak = true)
    (hmem : b ∈ t.lexeme) : t.kind = .string := by
  obtain ⟨⟨item, text⟩, rest, offset, hsel, hgives⟩ := exists_selected_of_mem ht
  have hblank : b.holds isBlank = true :=
    CodePoint.holds_mono (fun c hc => (isBlank_of_isLineBreak hc).1) hb
  have hkind := hgives.kind_eq
  have hlexeme := hgives.lexeme_eq
  have hfits := hsel.fits
  have hsolid (hitem : item.isSolid = true) (hlexeme : t.lexeme = text) : False := by
    have hnone := hfits.not_isBlank hitem b (hlexeme ▸ hmem)
    rw [hblank] at hnone
    cases hnone
  cases item with
  | string => exact (Option.some.inj hkind).symm
  | blank | lineComment | blockComment => cases hkind
  | word | number | operator | delimiter => exact (hsolid rfl hlexeme).elim
  | fault d =>
      have hprintable : isPrintableText t.lexeme = true := by
        rw [hgives.lexeme_of_fault rfl]
        exact isPrintableText_append d.isPrintableText_summary (isPrintableText_wording _ _)
      exact absurd hmem (not_mem_of_isPrintableText hprintable hb)

end SqlFrontEnd
