import Mathlib
import SqlFrontEnd.Proofs.Lexing.Reference
import SqlFrontEnd.Proofs.Lexing.Relocation

/-!
# Quoting

A content that is put between quotes, with its own quotes doubled, is one string literal wherever a
quote would open one, whatever it contains and whatever surrounds it.

* `OpensLiteral` — a quote placed after a text opens a literal: alone it is an unclosed one.
* `segmented_of_opensLiteral` — then the text is cut as if a quote were known to follow.
* **`tokenize_quote`** — a quoted content gives one token, between the tokens of what is before it
  and the relocated tokens of what is after it; and the lexeme of every string token is such a
  quoted content, in one way.
-/

namespace SqlFrontEnd.Lexing

open Place

/-- The token that reports an unclosed string literal at a place. -/
def unclosedString (p : Place) : Token :=
  ⟨.error, Text.ofString (Diagnostic.unclosedString.message p), p.line, p.column⟩

/-- A quote that is placed after a text opens a string literal: if nothing follows it, the last
token reports the literal as unclosed, at the place of the quote. -/
def OpensLiteral (policy : KeywordCase) (s : Text) : Prop :=
  (tokenize policy (s ++ [.char '\''])).getLast? =
    some (unclosedString (placeAt (s ++ [.char '\'']) s.length))

/-! ## Before the literal -/

/-- A text after which a quote opens a literal is cut as if a quote were known to follow, for the
report of the literal starts where the text ends. -/
lemma segmented_of_opensLiteral {policy : KeywordCase} {s : Text} (h : OpensLiteral policy s) :
    Segmented [.char '\''] s (segments s) := by
  obtain ⟨a, segment, b, hsegs, hgives⟩ := exists_gives_of_mem (List.mem_of_getLast? h)
  have hwhole := segmented_segments (s ++ [.char '\''])
  rw [hsegs] at hwhole
  obtain ⟨s₁, s₂, hs, h₁, h₂⟩ := hwhole.split
  -- both places are found at one offset
  have hlength : s₁.length = s.length := by
    have hline := hgives.line_eq
    have hcolumn := hgives.column_eq
    rw [h₁.flatMap_text, hs, placeAt_append] at hline hcolumn
    have hoffset := offset?_after s₁ s₂
    rw [← hline, ← hcolumn, ← hs, unclosedString, placeAt_append, offset?_after] at hoffset
    exact (Option.some.inj hoffset).symm
  obtain ⟨rfl, rfl⟩ := List.append_inj hs hlength.symm
  have hcut : Segmented [.char '\''] s a := by simpa using h₁
  have halone : Segmented [] s a := Segmented.restrict hcut
  rwa [segmented_iff.1 halone] at hcut

/-! ## The literal -/

/-- A quoted content is selected as one literal where no further quote follows it. -/
lemma selected_quote (v : Text) {rest : Text} (h : rest.head? ≠ some (.char '\'')) :
    Selected ⟨.string, quote v⟩ rest := by
  refine ⟨.string, ?_, v, .inl ⟨rfl, h⟩⟩
  rw [quote, List.cons_append, List.cons_append]
  rfl

/-- A quoted content is one segment where no further quote follows it. -/
lemma segmented_quote (v : Text) {rest : Text} (h : rest.head? ≠ some (.char '\'')) :
    Segmented rest (quote v) [⟨.string, quote v⟩] := .single (selected_quote v h)

/-- Only a string literal gives a string token. -/
lemma Gives.item_eq_string {policy : KeywordCase} {source : Text} {offset : ℕ} {segment : Segment}
    {t : Token} (h : Gives policy source offset segment t) (hkind : t.kind = .string) :
    segment.item = .string := by
  obtain ⟨hk, -, -, -⟩ := h
  obtain ⟨item, text⟩ := segment
  rw [hkind] at hk
  cases item with
  | string => rfl
  | word =>
      rw [Segment.kind?, Option.some.injEq] at hk
      obtain ⟨_, h⟩ | h | h := wordKind_cases policy text <;> rw [h] at hk <;> cases hk
  | blank | lineComment | blockComment | number | operator | delimiter | fault => cases hk

/-- The lexeme of a string token is a quoted content. -/
lemma exists_quote_of_mem {policy : KeywordCase} {source : Text} {t : Token}
    (h : t ∈ tokenize policy source) (hkind : t.kind = .string) : ∃ v, t.lexeme = quote v := by
  obtain ⟨segment, rest, offset, hsel, hgives⟩ := exists_selected_of_mem h
  have hitem := hgives.item_eq_string hkind
  have hfits := hsel.fits
  rw [hitem] at hfits
  obtain ⟨v, hv, -⟩ := hfits
  refine ⟨v, ?_⟩
  have hlexeme := hgives.lexeme_eq
  rw [hitem] at hlexeme
  rw [hlexeme, hv]

/-- **Quoting is injection-proof.**  Where a quote would open a literal, a quoted content is read as
one string token with exactly its text, provided that no further quote follows; what is before it
is read as if it stood alone, and so is what comes after it, told at its new place.  Conversely the
lexeme of every string token of a source is the quoted form of exactly one content. -/
theorem tokenize_quote (policy : KeywordCase) :
    (∀ s v t : Text, OpensLiteral policy s → t.head? ≠ some (.char '\'') →
      let opening := placeAt (s ++ quote v ++ t) s.length
      let closing := placeAt (s ++ quote v ++ t) (s ++ quote v).length
      tokenize policy (s ++ quote v ++ t) =
        tokenize policy s ++ [⟨.string, quote v, opening.line, opening.column⟩] ++
          (tokenize policy t).map (·.relocate closing)) ∧
    ∀ (source : Text), ∀ t ∈ tokenize policy source, t.kind = .string →
      ∃! v, t.lexeme = quote v := by
  constructor
  · intro s v t hopens ht opening closing
    have hs : Segmented (quote v ++ t) s (segments s) := by
      have h := (segmented_of_opensLiteral hopens).extend (by simp) (doubled v ++ [.char '\''] ++ t)
      simpa [quote] using h
    have hquoted : Segmented t (s ++ quote v) (segments s ++ [⟨.string, quote v⟩]) :=
      hs.append (segmented_quote v ht)
    have hopening : opening = start.after s := by
      rw [← placeAt_append s (quote v ++ t), ← List.append_assoc]
    have hclosing : closing = start.after (s ++ quote v) := placeAt_append _ _
    rw [tokenize_append hquoted, tokensFrom_append, segments_flatten, ← hclosing, ← hopening]
    rfl
  · intro source t ht hkind
    obtain ⟨v, hv⟩ := exists_quote_of_mem ht hkind
    exact ⟨v, hv, fun w hw => quote_injective (hw.symm.trans hv)⟩

/-- Comment marks, a quote and a line break in the content: after an operator the literal is read
whole, and what follows it is told on the second line. -/
theorem tokenize_quote_of_marks :
    OpensLiteral .sensitive [.char '='] ∧
      tokenize .sensitive ([.char '='] ++
        quote [.char '-', .char '-', .char '\'', .char '#', .char '\n'] ++ [.char '!']) =
      [⟨.operator .equal, [.char '='], 1, 1⟩,
        ⟨.string, quote [.char '-', .char '-', .char '\'', .char '#', .char '\n'], 1, 2⟩,
        ⟨.error, Text.ofString ((Diagnostic.invalidCharacter (.char '!')).message ⟨2, 2⟩),
          2, 2⟩] := by
  have hopens : OpensLiteral .sensitive [.char '='] := by
    unfold OpensLiteral
    decide +kernel
  refine ⟨hopens, ?_⟩
  exact ((tokenize_quote .sensitive).1 _ _ _ hopens (by decide)).trans (by decide +kernel)

end SqlFrontEnd.Lexing
