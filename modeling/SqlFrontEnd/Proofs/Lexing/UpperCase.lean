import Mathlib
import SqlFrontEnd.Proofs.Lexing.KeywordCase
import SqlFrontEnd.Proofs.Lexing.Lookahead
import SqlFrontEnd.Proofs.Lexing.Relocation

/-!
# Sources in upper case

To bring an ASCII source to upper case moves letters among letters and leaves every other character
where it is.  No rule tells one ASCII letter from another, so the source is cut as before, and each
segment is the upper case of the one that was there.  The only place where the spelling of a letter
counts is the look-up of words, and there the insensitive policy does to each word what has been
done to the whole source.

* `CodePoint.capital` — the upper case of an ASCII letter, and `upper_eq_map` — the upper case of an
  ASCII text is found with it.
* `holds_capital`, `capital_eq_iff` — the classes of characters and the marks do not notice.
* `segments_map_capital` — the source in upper case is cut into the segments in upper case.
* **`tokenize_upper`** — the insensitive policy reads a source as the sensitive one reads its upper
  case, and so sources that differ in the case of letters have the same kinds at the same places.
-/

namespace SqlFrontEnd

open Place Lexing

/-- A code point whose ASCII letter is brought to upper case. -/
def CodePoint.capital : CodePoint → CodePoint
  | .char c => .char c.toUpper
  | .surrogate half => .surrogate half

namespace Text

/-- A text of ASCII characters. -/
def IsAscii (text : Text) : Prop := ∀ c ∈ text, c.number < 0x80

instance (text : Text) : Decidable (IsAscii text) :=
  inferInstanceAs (Decidable (∀ c ∈ text, c.number < 0x80))

/-- The upper case of an ASCII text is found letter by letter. -/
lemma upper_eq_map {text : Text} (h : IsAscii text) : upper text = text.map CodePoint.capital := by
  induction text with
  | nil => rfl
  | cons c text ih =>
      have hc : upperCodePoint c = [c.capital] := by
        have hascii := h c List.mem_cons_self
        cases c with
        | char c => simp [upperCodePoint, upperChar, show c.toNat < 0x80 from hascii, ofChars,
            CodePoint.capital]
        | surrogate half => rfl
      have htext := ih fun d hd => h d (List.mem_cons_of_mem c hd)
      rw [upper, List.flatMap_cons, hc, List.map_cons, ← htext]
      rfl

end Text

/-! ## What letters are taken for -/

namespace CodePoint

/-- The numbers of the letters that are moved. -/
def smallLetters : List ℕ := List.range' 0x61 26

lemma toUpper_eq_or_exists (c : Char) :
    c.toUpper = c ∨ ∃ n ∈ smallLetters, c = Char.ofNat n := by
  by_cases h : 'a' ≤ c ∧ c ≤ 'z'
  · have hlow : 0x61 ≤ c.toNat := h.1
    have hhigh : c.toNat ≤ 0x7A := h.2
    exact .inr ⟨c.toNat, List.mem_range'_1.2 ⟨hlow, by omega⟩, (Char.ofNat_toNat c).symm⟩
  · left
    rw [Char.toUpper, dif_neg]
    exact h

/-- A class to which a small letter belongs just if its capital does is not left or entered. -/
lemma holds_capital {p : Char → Bool}
    (h : ∀ n ∈ smallLetters, p (Char.ofNat n).toUpper = p (Char.ofNat n)) (c : CodePoint) :
    c.capital.holds p = c.holds p := by
  cases c with
  | char c =>
      obtain hc | ⟨n, hn, rfl⟩ := toUpper_eq_or_exists c
      · rw [capital, hc]
      · exact h n hn
  | surrogate half => rfl

lemma isBlank_capital (c : CodePoint) : c.capital.holds Text.isBlank = c.holds Text.isBlank :=
  holds_capital (by decide +kernel) c

lemma isLetter_capital (c : CodePoint) : c.capital.holds Text.isLetter = c.holds Text.isLetter :=
  holds_capital (by decide +kernel) c

lemma isDigit_capital (c : CodePoint) : c.capital.holds Text.isDigit = c.holds Text.isDigit :=
  holds_capital (by decide +kernel) c

lemma isWordPart_capital (c : CodePoint) : isWordPart c.capital = isWordPart c :=
  holds_capital (by decide +kernel) c

lemma isNumberPart_capital (c : CodePoint) : isNumberPart c.capital = isNumberPart c :=
  holds_capital (by decide +kernel) c

/-- A character that is no letter comes from itself only. -/
lemma capital_eq_iff {c : CodePoint} {d : Char} (h : d.isAlpha = false) :
    c.capital = .char d ↔ c = .char d := by
  have hall : ∀ n ∈ smallLetters,
      (Char.ofNat n).isAlpha = true ∧ (Char.ofNat n).toUpper.isAlpha = true := by decide
  cases c with
  | char c =>
      rw [capital, char.injEq, char.injEq]
      obtain hc | ⟨n, hn, rfl⟩ := toUpper_eq_or_exists c
      · rw [hc]
      · obtain ⟨hsmall, hcapital⟩ := hall n hn
        constructor
        · rintro rfl
          rw [hcapital] at h
          cases h
        · rintro rfl
          rw [hsmall] at h
          cases h
  | surrogate half => simp [capital]

/-- A code point that is no letter stays as it is. -/
lemma capital_eq_of_not_isLetter {c : CodePoint} (h : c.holds Text.isLetter = false) :
    c.capital = c := by
  have hall : ∀ n ∈ smallLetters, Text.isLetter (Char.ofNat n) = true := by decide +kernel
  cases c with
  | char c =>
      obtain hc | ⟨n, hn, rfl⟩ := toUpper_eq_or_exists c
      · rw [capital, hc]
      · rw [holds_char, hall n hn] at h
        cases h
  | surrogate half => rfl

end CodePoint

open CodePoint

/-- The upper case of a text moves no line and no column. -/
lemma Place.after_map_capital (p : Place) (s : Text) : p.after (s.map capital) = p.after s := by
  induction s generalizing p with
  | nil => rfl
  | cons c s ih =>
      have hnext : p.next c.capital = p.next c := by
        simp only [Place.next, capital_eq_iff (d := '\n') (by decide)]
      rw [List.map_cons, after_cons, after_cons, hnext, ih]

namespace Lexing

/-- A segment in upper case. -/
def Segment.capital (segment : Segment) : Segment :=
  ⟨segment.item, segment.text.map CodePoint.capital⟩

/-! ## The rules -/

lemma head?_map_capital_eq_iff {s : Text} {d : Char} (h : d.isAlpha = false) :
    (s.map CodePoint.capital).head? = some (.char d) ↔ s.head? = some (.char d) := by
  cases s with
  | nil => simp
  | cons c s => simp [capital_eq_iff h]

/-- The same rules begin. -/
lemma Rule.begins_map_capital (rule : Rule) (text : Text) :
    rule.begins (text.map CodePoint.capital) = rule.begins text := by
  cases text with
  | nil => cases rule <;> rfl
  | cons c s =>
      rw [List.map_cons]
      cases rule with
      | blank => exact isBlank_capital c
      | word => exact isLetter_capital c
      | number => exact isDigit_capital c
      | unknown => rfl
      | lineComment | blockComment | string | twoCharacters | oneCharacter =>
          simp (disch := decide) only [Rule.begins, twoCharacterOperators, oneCharacterItems,
            List.any_cons, List.any_nil, Bool.beq_eq_decide_eq, capital_eq_iff,
            head?_map_capital_eq_iff]

lemma LongestRun.map_capital {p : CodePoint → Prop} {run rest : Text} (h : LongestRun p run rest)
    (hp : ∀ c : CodePoint, p c.capital ↔ p c) :
    LongestRun p (run.map CodePoint.capital) (rest.map CodePoint.capital) := by
  constructor
  · intro c hc
    obtain ⟨d, hd, rfl⟩ := List.mem_map.1 hc
    exact (hp d).2 (h.1 d hd)
  · intro c hc
    rw [List.head?_map] at hc
    obtain ⟨d, hd, rfl⟩ := Option.map_eq_some_iff.1 hc
    exact fun hpc => h.2 d hd ((hp d).1 hpc)

lemma not_mem_map_capital {s : Text} {d : Char} (h : d.isAlpha = false) (hs : .char d ∉ s) :
    .char d ∉ s.map CodePoint.capital := by
  intro hmem
  obtain ⟨c, hc, hcd⟩ := List.mem_map.1 hmem
  rw [capital_eq_iff h] at hcd
  exact hs (hcd ▸ hc)

lemma doubled_map_capital (v : Text) :
    doubled (v.map CodePoint.capital) = (doubled v).map CodePoint.capital := by
  induction v with
  | nil => rfl
  | cons c v ih =>
      simp only [doubled, List.map_cons, capital_eq_iff (d := '\'') (by decide), ih]
      split <;> rfl

lemma quote_map_capital (v : Text) :
    quote (v.map CodePoint.capital) = (quote v).map CodePoint.capital := by
  rw [quote, quote, doubled_map_capital, List.map_append, List.map_cons]
  rfl

/-- A rule takes the upper case of what it takes. -/
lemma Rule.Takes.capital {rule : Rule} {segment : Segment} {rest : Text}
    (h : rule.Takes segment rest)
    (hinvalid : ∀ c, segment.item = .fault (.invalidCharacter c) → c.capital = c) :
    rule.Takes segment.capital (rest.map CodePoint.capital) := by
  cases rule with
  | blank =>
      obtain ⟨hitem, c, hc, ht⟩ := h
      exact ⟨hitem, c.capital, (isBlank_capital c).trans hc, by rw [Segment.capital, ht]; rfl⟩
  | lineComment =>
      obtain ⟨hitem, body, ht, hbody⟩ := h
      refine ⟨hitem, body.map CodePoint.capital, by rw [Segment.capital, ht]; rfl, ?_⟩
      exact hbody.map_capital fun c => not_congr (capital_eq_iff (by decide))
  | blockComment =>
      obtain ⟨body, hb, rfl | ⟨rfl, rfl⟩⟩ := h
      · refine ⟨body.map CodePoint.capital, not_mem_map_capital (by decide) hb, .inl ?_⟩
        simp [Segment.capital, CodePoint.capital]
      · refine ⟨body.map CodePoint.capital, not_mem_map_capital (by decide) hb, .inr ⟨?_, rfl⟩⟩
        simp [Segment.capital, CodePoint.capital]
  | word =>
      obtain ⟨hitem, c, run, ht, hc, hrun⟩ := h
      refine ⟨hitem, c.capital, run.map CodePoint.capital, by rw [Segment.capital, ht]; rfl,
        (isLetter_capital c).trans hc, hrun.map_capital fun d => ?_⟩
      rw [isWordPart_capital]
  | number =>
      obtain ⟨hitem, c, run, ht, hc, hrun⟩ := h
      refine ⟨hitem, c.capital, run.map CodePoint.capital, by rw [Segment.capital, ht]; rfl,
        (isDigit_capital c).trans hc, hrun.map_capital fun d => ?_⟩
      rw [isNumberPart_capital]
  | string =>
      obtain ⟨content, ⟨rfl, hr⟩ | ⟨rfl, rfl⟩⟩ := h
      · refine ⟨content.map CodePoint.capital, .inl ⟨?_, ?_⟩⟩
        · rw [quote_map_capital, Segment.capital]
        · rwa [ne_eq, head?_map_capital_eq_iff (by decide)]
      · refine ⟨content.map CodePoint.capital, .inr ⟨?_, rfl⟩⟩
        rw [doubled_map_capital, Segment.capital]
        rfl
  | twoCharacters =>
      obtain ⟨a, b, symbol, hmem, rfl⟩ := h
      have hall : ∀ entry ∈ twoCharacterOperators,
          entry.1.1.toUpper = entry.1.1 ∧ entry.1.2.toUpper = entry.1.2 := by decide
      obtain ⟨ha, hb⟩ := hall _ hmem
      refine ⟨a, b, symbol, hmem, ?_⟩
      simp only [Segment.capital, List.map_cons, List.map_nil, CodePoint.capital, ha, hb]
  | oneCharacter =>
      obtain ⟨a, item, hmem, rfl⟩ := h
      have hall : ∀ entry ∈ oneCharacterItems, entry.1.toUpper = entry.1 := by decide
      refine ⟨a, item, hmem, ?_⟩
      simp only [Segment.capital, List.map_cons, List.map_nil, CodePoint.capital, hall _ hmem]
  | unknown =>
      obtain ⟨c, rfl⟩ := h
      refine ⟨c, ?_⟩
      rw [Segment.capital, List.map_singleton, hinvalid c rfl]

/-- **The selection stays**, in upper case. -/
lemma Selected.capital {segment : Segment} {rest : Text} (h : Selected segment rest) :
    Selected segment.capital (rest.map CodePoint.capital) := by
  have hinvalid : ∀ c, segment.item = .fault (.invalidCharacter c) → c.capital = c := by
    intro c hitem
    have hfits := h.fits
    rw [hitem] at hfits
    have hletter := h.not_begins_of_invalid hitem .word (by simp)
    rw [show segment.text = [c] from hfits] at hletter
    exact capital_eq_of_not_isLetter hletter
  obtain ⟨rule, hrule, htakes⟩ := h
  refine ⟨rule, ?_, htakes.capital hinvalid⟩
  rw [Segment.capital, ← List.map_append]
  refine Rule.inCharge?_of_imp hrule (fun r hr => ?_) ?_
  · rwa [Rule.begins_map_capital] at hr
  · rw [Rule.begins_map_capital]
    exact Rule.begins_of_inCharge? hrule

lemma Segmented.capital {s : Text} {segs : List Segment} (h : Segmented [] s segs) :
    Segmented [] (s.map CodePoint.capital) (segs.map Segment.capital) := by
  induction h with
  | nil => exact .nil
  | @cons segment rest segs hne hsel _ ih =>
      rw [List.append_nil] at hsel
      rw [List.map_append, List.map_cons]
      have hne' : segment.capital.text ≠ [] := by simpa [Segment.capital] using hne
      have hsel' := hsel.capital
      exact .cons hne' (by rwa [List.append_nil]) ih

/-- **The source in upper case is cut into the segments in upper case.** -/
lemma segments_map_capital (s : Text) :
    segments (s.map CodePoint.capital) = (segments s).map Segment.capital :=
  (segmented_iff.1 (segmented_segments s).capital).symm

end Lexing

/-! ## The tokens -/

/-- A token with its lexeme in upper case.  A report stays as it is. -/
def Token.upper (t : Token) : Token :=
  if t.isError then t else { t with lexeme := Text.upper t.lexeme }

/-- What the insensitive policy gives for a segment, the sensitive one gives for its upper case. -/
lemma Lexing.inStep_capital {segment : Segment} (h : Text.IsAscii segment.text) :
    InStep (fun t u => t.upper = u) .insensitive .sensitive segment segment.capital := by
  intro p
  obtain ⟨item, text⟩ := segment
  refine ⟨(after_map_capital p text).symm, ?_⟩
  have htext : text.map CodePoint.capital = Text.upper text := (Text.upper_eq_map h).symm
  rw [Segment.capital, htext]
  cases item with
  | blank | lineComment | blockComment => exact .none
  | word =>
      have hvalid : wordKind .insensitive text ≠ .error := wordKind_ne_error _ _
      refine .some ?_
      rw [Token.upper, if_neg (by simpa [Token.isError] using hvalid)]
      rfl
  | number | string | operator | delimiter | fault => exact .some rfl

/-- The kind of a token and its place. -/
def Token.kindAndPlace (t : Token) : TokenKind × ℤ × ℤ := (t.kind, t.line, t.column)

lemma Token.kindAndPlace_upper (t : Token) : t.upper.kindAndPlace = t.kindAndPlace := by
  rw [Token.upper]
  split <;> rfl

/-- The insensitive policy reads an ASCII source as the sensitive one reads its upper case. -/
lemma tokenize_sensitive_upper {source : Text} (h : Text.IsAscii source) :
    tokenize .sensitive (Text.upper source) = (tokenize .insensitive source).map Token.upper := by
  have hascii : ∀ segment ∈ segments source, Text.IsAscii segment.text := by
    intro segment hmem c hc
    refine h c ?_
    rw [← segments_flatten source]
    exact List.mem_flatMap_of_mem hmem hc
  have hstep : List.Forall₂ (InStep (fun t u => t.upper = u) .insensitive .sensitive)
      (segments source) ((segments source).map Segment.capital) := by
    rw [List.forall₂_map_right_iff, List.forall₂_same]
    exact fun segment hmem => inStep_capital (hascii segment hmem)
  have htokens := rel_tokensFrom hstep .start
  rw [← List.forall₂_map_left_iff, List.forall₂_eq_eq_eq, ← segments_map_capital,
    ← Text.upper_eq_map h] at htokens
  exact htokens.symm

/-- **Insensitive reading is reading in upper case.**  The insensitive policy finds in an ASCII
source what the sensitive policy finds in the source in upper case: as many tokens, with the same
kinds, lines and columns, the same reports, and the lexemes of all others in upper case.  So two
ASCII sources that differ in the case of letters only have the same kinds at the same places. -/
theorem tokenize_upper :
    (∀ source, Text.IsAscii source →
      tokenize .sensitive (Text.upper source) = (tokenize .insensitive source).map Token.upper) ∧
    ∀ s t, Text.IsAscii s → Text.IsAscii t → Text.upper s = Text.upper t →
      (tokenize .insensitive s).map Token.kindAndPlace =
        (tokenize .insensitive t).map Token.kindAndPlace := by
  refine ⟨fun source h => tokenize_sensitive_upper h, fun s t hs ht hcase => ?_⟩
  have hplaces (source : Text) (h : Text.IsAscii source) :
      (tokenize .sensitive (Text.upper source)).map Token.kindAndPlace =
        (tokenize .insensitive source).map Token.kindAndPlace := by
    rw [tokenize_sensitive_upper h, List.map_map]
    exact List.map_congr_left fun t _ => t.kindAndPlace_upper
  rw [← hplaces s hs, hcase, hplaces t ht]

/-- Keywords and identifiers in mixed case, a literal over two lines, an invalid character, and a
comment that is not closed. -/
theorem tokenize_upper_of_mixed :
    Text.IsAscii (Text.ofString "fRom x1'it''s\nso'_#b") ∧
      Text.IsAscii (Text.ofString "From X1'It''s\nSo'_#B") ∧
      tokenize .sensitive (Text.ofString "FROM X1'IT''S\nSO'_#B") =
        (tokenize .insensitive (Text.ofString "fRom x1'it''s\nso'_#b")).map Token.upper ∧
      (tokenize .insensitive (Text.ofString "fRom x1'it''s\nso'_#b")).map Token.kindAndPlace =
        (tokenize .insensitive (Text.ofString "From X1'It''s\nSo'_#B")).map Token.kindAndPlace ∧
      (tokenize .insensitive (Text.ofString "From X1'It''s\nSo'_#B")).map Token.kindAndPlace =
        [(.keyword .FROM, 1, 1), (.identifier, 1, 6), (.string, 1, 8), (.error, 2, 4),
          (.error, 2, 5)] := by
  have hs : Text.IsAscii (Text.ofString "fRom x1'it''s\nso'_#b") := by decide +kernel
  have ht : Text.IsAscii (Text.ofString "From X1'It''s\nSo'_#B") := by decide +kernel
  have hupper : Text.upper (Text.ofString "fRom x1'it''s\nso'_#b") =
      Text.ofString "FROM X1'IT''S\nSO'_#B" := by decide +kernel
  have hcase : Text.upper (Text.ofString "fRom x1'it''s\nso'_#b") =
      Text.upper (Text.ofString "From X1'It''s\nSo'_#B") := by decide +kernel
  refine ⟨hs, ht, ?_, tokenize_upper.2 _ _ hs ht hcase, by decide +kernel⟩
  rw [← hupper]
  exact tokenize_upper.1 _ hs

end SqlFrontEnd
