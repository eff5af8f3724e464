import Mathlib
import SqlFrontEnd.Proofs.Lexing.Fault
import SqlFrontEnd.Proofs.Lexing.KeywordCase

/-!
# What words are made of

Two classifications of characters meet in a word.  It begins with a letter, by the test that tells
letters from digits and from characters that begin nothing; but it goes on with whatever is
alphanumeric, and the numerals are so too.  A numeral that is neither a letter nor a digit, like a
fraction or a Roman number, is reported when it stands alone and accepted behind a letter.  It
makes the word an identifier, as no reserved spelling has a numeral in either case of letters.

* `isStray` — the numerals that are neither letters nor digits.
* `isStray_iff` — among the characters of words they are those that no other class has.
* `any_isInvalid_singleton` — which of these characters are reported when they stand alone.
* `isLetter_of_wordKind_ne`, `wordKind_of_isStray` — reserved words consist of letters, so that a
  stray numeral makes an identifier.
* **`word_characters`** — a character of a word is an underscore, a letter or a digit exactly where
  it is no stray numeral, and every word can have stray numerals behind its first letter.
-/

namespace SqlFrontEnd

open Place

/-- The kinds of words. -/
def TokenKind.isWord : TokenKind → Bool
  | .keyword _ | .typeName | .identifier => true
  | _ => false

namespace Lexing

/-- A numeral that is neither a letter nor a digit. -/
def isStray (c : CodePoint) : Bool :=
  c.holds fun c => Text.isNumeral c && !(Text.isLetter c || Text.isDigit c)

/-- The classes of the characters of words. -/
lemma isWordPart_of_class {c : CodePoint} (h : c = .char '_' ∨ c.holds Text.isLetter = true ∨
    c.holds Text.isDigit = true ∨ isStray c = true) : isWordPart c = true := by
  obtain rfl | hletter | hdigit | hstray := h
  · decide
  · exact isWordPart_of_isLetter hletter
  · exact CodePoint.holds_mono (by simp +contextual) hdigit
  · exact CodePoint.holds_mono (by simp +contextual) hstray

/-- Of the characters of words the stray numerals are those that no other class has. -/
lemma isStray_iff {c : CodePoint} (h : isWordPart c = true) : isStray c = true ↔
    c ≠ .char '_' ∧ c.holds Text.isLetter = false ∧ c.holds Text.isDigit = false := by
  have hunderscore : isStray (.char '_') = false := by decide +kernel
  cases c with
  | surrogate half => cases h
  | char c =>
      constructor
      · intro hstray
        have hclasses : Text.isNumeral c = true ∧ Text.isLetter c = false ∧
            Text.isDigit c = false := by simpa [isStray] using hstray
        refine ⟨fun hc => ?_, hclasses.2⟩
        rw [hc, hunderscore] at hstray
        cases hstray
      · rintro ⟨hne, hletter, hdigit⟩
        rw [Ne, CodePoint.char.injEq] at hne
        simp only [CodePoint.holds_char] at hletter hdigit
        simpa [isWordPart, isStray, hletter, hdigit, hne] using h

/-! ## What a character of a word begins -/

/-- A character of a word is no blank and none of the marks, so it begins a word, a number or
nothing at all. -/
lemma first_of_isWordPart {c : CodePoint} (h : isWordPart c = true) (s : Text) :
    first c s =
      if c.holds Text.isLetter then runOf .word isWordPart (c :: s)
      else if c.holds Text.isDigit then runOf .number isNumberPart (c :: s)
      else (⟨.fault (.invalidCharacter c), [c]⟩, s) := by
  have hmark {d : Char} (hd : isWordPart (.char d) = false) : c ≠ .char d := by
    rintro rfl
    rw [h] at hd
    cases hd
  have hblank := not_isBlank_of_isWordPart h
  have hshort : shortItem c s = (⟨.fault (.invalidCharacter c), [c]⟩, s) := by
    have hone : ∀ entry ∈ oneCharacterItems, isWordPart (.char entry.1) = false := by
      decide +kernel
    have htwo : ∀ entry ∈ twoCharacterOperators, isWordPart (.char entry.1.1) = false := by
      decide +kernel
    rw [shortItem_of_not_begins, singleItem_of_not_begins (s := s)]
    · refine Bool.eq_false_iff.2 fun hbegins => ?_
      obtain ⟨a, item, hmem, rfl⟩ := Rule.begins_oneCharacter_iff.1 hbegins
      exact hmark (hone _ hmem) rfl
    · refine Bool.eq_false_iff.2 fun hbegins => ?_
      obtain ⟨a, b, symbol, hmem, rfl, -⟩ := Rule.begins_twoCharacters_iff.1 hbegins
      exact hmark (htwo _ hmem) rfl
  have hdash := hmark (d := '-') (by decide +kernel)
  have hnumber := hmark (d := '#') (by decide +kernel)
  have hquote := hmark (d := '\'') (by decide +kernel)
  simp only [first, hblank, hdash, hnumber, hquote, hshort, false_and, if_false,
    Bool.false_eq_true]

lemma segments_singleton (c : CodePoint) : segments [c] = [(first c []).1] := by
  have hlength := length_first_lt c []
  have hrest : (first c []).2 = [] := List.length_eq_zero_iff.1 (by simpa using hlength)
  rw [segments, hrest, segments]

/-- **Which characters of a word are reported alone**: those that are neither letters nor digits. -/
lemma any_isInvalid_singleton (policy : KeywordCase) {c : CodePoint} (h : isWordPart c = true) :
    (tokenize policy [c]).any Token.isInvalid =
      (!c.holds Text.isLetter && !c.holds Text.isDigit) := by
  have hskip (segment : Segment) (hskip : segment.isSkipped = true) :
      segment.item.isInvalid = false :=
    (Item.valid_of_not_isFault (isFault_of_isSkipped hskip)).1
  rw [tokenize, any_tokensFrom isInvalid_of_token? hskip, segments_singleton, List.any_cons,
    List.any_nil, Bool.or_false, first_of_isWordPart h]
  cases c.holds Text.isLetter with
  | true => rfl
  | false => cases c.holds Text.isDigit <;> rfl

/-- A letter with characters of a word behind it is one word. -/
lemma segments_word {c : CodePoint} {run : Text} (hletter : c.holds Text.isLetter = true)
    (hrun : ∀ d ∈ run, isWordPart d = true) : segments (c :: run) = [⟨.word, c :: run⟩] := by
  have hc := isWordPart_of_isLetter hletter
  have hfirst : first c run = (⟨.word, c :: run⟩, []) := by
    rw [first_of_isWordPart hc, if_pos hletter, runOf_eq_iff]
    exact ⟨rfl, List.append_nil _, List.forall_mem_cons.2 ⟨hc, hrun⟩, by simp⟩
  rw [segments, hfirst, segments]

/-! ## Reserved words

The tables of case are asked which characters become ASCII capitals.  There are few, and all of them
are letters. -/

section Capitals

open Text

/-- A number that is the one of an ASCII capital is small. -/
lemma le_of_isUpper_ofNat {n : ℕ} (h : (Char.ofNat n).isUpper = true) : n ≤ 0x5A := by
  by_cases hvalid : n.isValidChar
  · have hrange : (Char.ofNat n).toNat ≤ 0x5A := by
      rw [Char.isUpper, decide_eq_true_eq] at h
      exact h.2
    rwa [Char.toNat_ofNat, if_pos hvalid] at hrange
  · rw [Char.ofNat, dif_neg hvalid] at h
    cases h

lemma contains_of_upperBeyondAscii {n : ℕ} (hn : 0x80 ≤ n)
    (h : ∀ d ∈ upperBeyondAscii n, d.isUpper = true) : letterRanges.contains n = true := by
  have hexpansions : ∀ entry ∈ upperExpansions,
      (∀ k ∈ entry.2, (Char.ofNat k).isUpper = true) → letterRanges.contains entry.1 = true := by
    decide +kernel
  -- a row leads to the capitals only if it starts near them, and those that do are single letters
  have hshifts : ∀ m ∈ upperShifts, m.last < 0x80 ∨ 0x5A < m.first + m.shift ∨
      m.first = m.last ∧ letterRanges.contains m.first = true := by decide +kernel
  rw [upperBeyondAscii] at h
  split at h
  · next image hlookup =>
    obtain ⟨before, behind, hsplit, -⟩ := List.lookup_eq_some_iff.1 hlookup
    exact hexpansions (n, image) (by simp [hsplit]) (List.forall_mem_map.1 h)
  · split at h
    · next m hfind =>
      have hcovers := List.find?_some hfind
      simp only [CaseShift.covers, Bool.and_eq_true, decide_eq_true_eq] at hcovers
      have hle := le_of_isUpper_ofNat (h _ (List.mem_singleton_self _))
      obtain hlast | hfirst | ⟨hone, hletter⟩ := hshifts m (List.mem_of_find?_eq_some hfind)
      · omega
      · omega
      · obtain rfl : n = m.first := by omega
        exact hletter
    · have hle := le_of_isUpper_ofNat (h _ (List.mem_singleton_self _))
      omega

/-- **Only letters become ASCII capitals.** -/
lemma isLetter_of_upperChar {c : Char} (h : ∀ d ∈ upperChar c, d.isUpper = true) :
    isLetter c = true := by
  have hascii : ∀ n < 0x80, (Char.ofNat n).toUpper.isUpper = true →
      letterRanges.contains n = true := by decide +kernel
  rw [upperChar] at h
  split at h
  · next hsmall =>
    refine hascii c.toNat hsmall ?_
    rw [Char.ofNat_toNat]
    exact h _ (List.mem_singleton_self _)
  · next hlarge => exact contains_of_upperBeyondAscii (Nat.le_of_not_lt hlarge) h

end Capitals

/-- **Reserved words consist of letters**, in whatever case these are. -/
lemma isLetter_of_wordKind_ne {policy : KeywordCase} {word : Text}
    (h : wordKind policy word ≠ .identifier) : ∀ c ∈ word, c.holds Text.isLetter = true := by
  have hspelling : ∀ entry ∈ reservedSpellings, entry.1.toList.all Char.isUpper = true := by decide
  obtain ⟨kind, hkind⟩ : ∃ kind, reserved? (policy.key word) = some kind := by
    rw [← Option.ne_none_iff_exists']
    intro hnone
    rw [wordKind_eq, hnone] at h
    exact h rfl
  -- under either policy the upper case of the word is a reserved spelling
  have hupper : Text.upper word = policy.key word := by
    cases policy with
    | sensitive => exact upper_eq_of_reserved? hkind
    | insensitive => rfl
  obtain ⟨entry, hentry, hword, -⟩ := exists_mem_of_reserved? hkind
  intro c hc
  have hmem : ∀ x ∈ Text.upperCodePoint c, ∃ d ∈ entry.1.toList, .char d = x := by
    intro x hx
    have hx' : x ∈ Text.ofString entry.1 := by
      rw [hword, ← hupper]
      exact List.mem_flatMap.2 ⟨c, hc, hx⟩
    exact List.mem_map.1 hx'
  cases c with
  | surrogate half =>
      obtain ⟨d, -, hd⟩ := hmem _ (List.mem_singleton_self _)
      cases hd
  | char c =>
      refine isLetter_of_upperChar fun d hd => ?_
      obtain ⟨d', hd', heq⟩ := hmem (.char d) (List.mem_map_of_mem hd)
      obtain rfl := CodePoint.char.inj heq
      exact List.all_eq_true.1 (hspelling entry hentry) d' hd'

/-- **A word with a stray numeral in it is an identifier.** -/
lemma wordKind_of_isStray (policy : KeywordCase) {word : Text} {c : CodePoint} (hc : c ∈ word)
    (hstray : isStray c = true) : wordKind policy word = .identifier := by
  have hpart := isWordPart_of_class (.inr (.inr (.inr hstray)))
  by_contra hkind
  have hletter := isLetter_of_wordKind_ne hkind c hc
  rw [((isStray_iff hpart).1 hstray).2.1] at hletter
  cases hletter

/-! ## The words of a source -/

/-- A token that is a word begins with a letter, goes on with characters of words, and is of the
kind of its lexeme. -/
lemma exists_word_of_mem {policy : KeywordCase} {source : Text} {t : Token}
    (ht : t ∈ tokenize policy source) (hword : t.kind.isWord = true) :
    ∃ c run, t.lexeme = c :: run ∧ c.holds Text.isLetter = true ∧
      (∀ d ∈ run, isWordPart d = true) ∧ t.kind = wordKind policy t.lexeme := by
  obtain ⟨⟨item, text⟩, rest, offset, hsel, hgives⟩ := exists_selected_of_mem ht
  have hkind := hgives.kind_eq
  have hlexeme := hgives.lexeme_eq
  have hfits := hsel.fits
  cases item with
  | word =>
      obtain ⟨c, run, htext, hletter, hrun⟩ := hfits
      rw [Segment.kind?, Option.some.injEq] at hkind
      exact ⟨c, run, hlexeme.trans htext, hletter, hrun.1,
        hkind.symm.trans (congrArg _ hlexeme.symm)⟩
  | blank | lineComment | blockComment => cases hkind
  | number | string | operator | delimiter | fault =>
      rw [Segment.kind?, Option.some.injEq] at hkind
      rw [← hkind] at hword
      cases hword

end Lexing

open Lexing

/-- **What words are made of.**  A character of a word of a source is an underscore, a letter or a
digit exactly if it is no stray numeral; stray numerals stand in identifiers alone, and a character
that is no underscore is reported where it stands by itself exactly if it is one.  Every letter with
underscores, letters, digits and stray numerals behind it, one of the last at least, is one
identifier. -/
theorem word_characters (policy : KeywordCase) :
    (∀ (source : Text), ∀ t ∈ tokenize policy source, t.kind.isWord = true → ∀ c ∈ t.lexeme,
      ((c = .char '_' ∨ c.holds Text.isLetter = true ∨ c.holds Text.isDigit = true) ↔
        isStray c = false) ∧
      (isStray c = true → t.kind = .identifier) ∧
      (c ≠ .char '_' → ((tokenize policy [c]).any Token.isInvalid = true ↔ isStray c = true))) ∧
    ∀ (c : CodePoint) (run : Text), c.holds Text.isLetter = true →
      (∀ d ∈ run, d = .char '_' ∨ d.holds Text.isLetter = true ∨ d.holds Text.isDigit = true ∨
        isStray d = true) → (∃ d ∈ run, isStray d = true) →
        tokenize policy (c :: run) = [⟨.identifier, c :: run, 1, 1⟩] := by
  constructor
  · intro source t ht hword c hc
    obtain ⟨first, run, hlexeme, hfirst, hrun, hkind⟩ := exists_word_of_mem ht hword
    have hpart : isWordPart c = true := by
      rw [hlexeme, List.mem_cons] at hc
      obtain rfl | hc := hc
      · exact isWordPart_of_isLetter hfirst
      · exact hrun c hc
    refine ⟨?_, ?_, ?_⟩
    · rw [← Bool.not_eq_true, isStray_iff hpart]
      grind
    · intro hstray
      rw [hkind, wordKind_of_isStray policy hc hstray]
    · intro hne
      rw [any_isInvalid_singleton policy hpart, isStray_iff hpart]
      simp [hne]
  · rintro c run hletter hrun ⟨d, hd, hstray⟩
    have hkind := wordKind_of_isStray policy (List.mem_cons_of_mem c hd) hstray
    have hpart : ∀ d ∈ run, isWordPart d = true := fun d hd => isWordPart_of_class (hrun d hd)
    rw [tokenize, segments_word hletter hpart, tokensFrom, tokensFrom, List.append_nil]
    simp [Segment.token?, hkind, start]

/-- Behind a letter the fraction `½` is part of a word, though it is no letter, no digit and no
underscore and is reported when it stands alone. -/
theorem word_characters_half :
    ∃ t ∈ tokenize .sensitive [.char 'a', .char '½'], t.kind.isWord = true ∧
      ∃ c ∈ t.lexeme, c ≠ .char '_' ∧ c.holds Text.isLetter = false ∧
        c.holds Text.isDigit = false ∧ (tokenize .sensitive [c]).any Token.isInvalid = true :=
  ⟨⟨.identifier, [.char 'a', .char '½'], 1, 1⟩, by decide +kernel, rfl, .char '½',
    by decide +kernel⟩

end SqlFrontEnd
