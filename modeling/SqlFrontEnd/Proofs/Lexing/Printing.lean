import Mathlib
import SqlFrontEnd.Proofs.Lexing.Whitening

/-!
# Printing tokens and reading them again

The lexemes of a source can be written down with any blanks between them, and the text that comes
out is read as the same tokens.  For what a lexeme is does not depend on the place where it stands:
each is an item that ends by itself, and a blank behind it ends it just as well as what followed it
in the source.  Only two lexemes that touch may become something else, as two dashes do.

* `validTokens` — the tokens of a source that report no fault.
* `Token.content` — the kind and the lexeme of a token, without its place.
* `spaced` — lexemes with blanks before, between and behind them; `Spacing` says which blanks.
* `Stands` — the segment that gives a token wherever a blank or nothing follows it.
* `segmented_spaced` — the printed text is cut into blanks and these segments.
* **`tokenize_spaced`** — printed and read again, the tokens have the same kinds and lexemes.
-/

namespace SqlFrontEnd

open Place Lexing

/-- What a token is, wherever it stands. -/
def Token.content (t : Token) : TokenKind × Text := (t.kind, t.lexeme)

/-- The tokens of a source that report no fault. -/
def validTokens (policy : KeywordCase) (source : Text) : List Token :=
  (tokenize policy source).filter fun t => !t.isError

/-- Lexemes with a text before the first of them and a text behind each. -/
def spaced (before : Text) : List Text → List Text → Text
  | lexeme :: lexemes, gap :: gaps => before ++ lexeme ++ spaced gap lexemes gaps
  | _, _ => before

/-- Blank texts for the gaps around some lexemes.  Between two lexemes there is a blank; before the
first and behind the last there may be none. -/
structure Spacing (lexemes : ℕ) (before : Text) (gaps : List Text) : Prop where
  length_eq : gaps.length = lexemes
  isBlank : ∀ gap ∈ before :: gaps, ∀ c ∈ gap, c.holds Text.isBlank = true
  ne_nil : ∀ gap ∈ gaps.dropLast, gap ≠ []

/-- Behind its first lexeme a spacing is one for the others, and its first gap is empty only where
there are no others. -/
lemma Spacing.tail {n : ℕ} {before gap : Text} {gaps : List Text}
    (h : Spacing (n + 1) before (gap :: gaps)) : Spacing n gap gaps ∧ (gap = [] → gaps = []) := by
  have hmore (hgaps : gaps ≠ []) : (gap :: gaps).dropLast = gap :: gaps.dropLast :=
    List.dropLast_cons_of_ne_nil hgaps
  refine ⟨⟨by simpa using h.length_eq, fun g hg => h.isBlank g (List.mem_cons_of_mem _ hg), ?_⟩, ?_⟩
  · intro g hg
    have hgaps : gaps ≠ [] := by
      rintro rfl
      cases hg
    exact h.ne_nil g (by rw [hmore hgaps]; exact List.mem_cons_of_mem _ hg)
  · intro hgap
    by_contra hgaps
    exact h.ne_nil gap (by rw [hmore hgaps]; exact List.mem_cons_self) hgap

namespace Lexing

/-! ## Lexemes that stand for themselves -/

/-- A segment is selected where nothing follows, ends before every blank, and gives a token of the
kind and the lexeme of `t`. -/
structure Stands (policy : KeywordCase) (segment : Segment) (t : Token) : Prop where
  selected : Selected segment []
  endsAt : ∀ c, segment.item.EndsAt c
  kind_eq : segment.kind? policy = some t.kind
  text_eq : segment.text = t.lexeme
  isFault : segment.item.isFault = false

/-- **Every token that reports no fault stands for itself.** -/
lemma exists_stands_of_mem {policy : KeywordCase} {source : Text} {t : Token}
    (h : t ∈ validTokens policy source) : ∃ segment, Stands policy segment t := by
  obtain ⟨hmem, hvalid⟩ := List.mem_filter.1 h
  obtain ⟨segment, rest, offset, hsel, hgives⟩ := exists_selected_of_mem hmem
  have hkind := hgives.kind_eq
  have hfault : ∀ diagnostic, segment.item ≠ .fault diagnostic := by
    intro diagnostic hitem
    rw [Segment.kind?, hitem, Option.some.injEq] at hkind
    simp [Token.isError, ← hkind] at hvalid
  refine ⟨segment, Selected.restrict (t := rest) hsel, fun c => ?_, hkind,
    (hgives.lexeme_eq_text hfault).2.symm, ?_⟩
  · obtain ⟨item, text⟩ := segment
    cases item with
    | blank | lineComment | blockComment => cases hkind
    | word | number | string | operator | delimiter => exact ⟨rfl, by simp⟩
    | fault diagnostic => exact absurd rfl (hfault diagnostic)
  · obtain ⟨item, text⟩ := segment
    cases item with
    | fault diagnostic => exact absurd rfl (hfault diagnostic)
    | blank | lineComment | blockComment | word | number | string | operator | delimiter => rfl

/-- The token of a segment that is no fault. -/
lemma Stands.token?_eq {policy : KeywordCase} {segment : Segment} {t : Token}
    (h : Stands policy segment t) (p : Place) :
    segment.token? policy p = some ⟨t.kind, t.lexeme, p.line, p.column⟩ := by
  obtain ⟨-, -, hkind, htext, hfault⟩ := h
  obtain ⟨item, text⟩ := segment
  cases item with
  | blank | lineComment | blockComment => cases hkind
  | word | number | string | operator | delimiter =>
      simp only [Segment.kind?, Option.some.injEq] at hkind
      subst htext
      rw [← hkind]
      rfl
  | fault diagnostic => cases hfault

/-- In front of a gap a lexeme is read as it stands. -/
lemma Stands.selected_spaced {policy : KeywordCase} {segment : Segment} {t : Token}
    (h : Stands policy segment t) {n : ℕ} {gap : Text} {lexemes gaps : List Text}
    (hspacing : Spacing n gap gaps) (hgap : gap = [] → gaps = []) :
    Selected segment (spaced gap lexemes gaps) := by
  cases gap with
  | nil =>
      rw [hgap rfl]
      cases lexemes <;> exact h.selected
  | cons c gap =>
      have hblank := hspacing.isBlank (c :: gap) List.mem_cons_self c List.mem_cons_self
      obtain ⟨rest, hrest⟩ : ∃ rest, spaced (c :: gap) lexemes gaps = c :: rest := by
        cases lexemes <;> cases gaps <;> exact ⟨_, rfl⟩
      rw [hrest]
      exact h.selected.before_blank hblank (h.endsAt c) rest

/-! ## The printed text -/

/-- **The printed text is cut into blanks and lexemes**, and the lexemes give the tokens again. -/
lemma segmented_spaced {policy : KeywordCase} {ts : List Token}
    (hts : ∀ t ∈ ts, ∃ segment, Stands policy segment t) {before : Text} {gaps : List Text}
    (hspacing : Spacing ts.length before gaps) (p : Place) :
    ∃ segs, Segmented [] (spaced before (ts.map (·.lexeme)) gaps) segs ∧
      (tokensFrom policy p segs).map Token.content = ts.map Token.content := by
  induction ts generalizing before gaps p with
  | nil =>
      have hblanks := segmented_blanks (hspacing.isBlank before List.mem_cons_self) []
      exact ⟨blanks before, hblanks, by rw [tokensFrom_blanks]⟩
  | cons t ts ih =>
      obtain ⟨gap, gaps, rfl⟩ := List.exists_cons_of_length_eq_add_one hspacing.length_eq
      obtain ⟨htail, hgap⟩ := hspacing.tail
      obtain ⟨segment, hstands⟩ := hts t List.mem_cons_self
      obtain ⟨segs, hcut, hsame⟩ := ih (fun u hu => hts u (List.mem_cons_of_mem t hu)) htail
        ((p.after ((blanks before).flatMap (·.text))).after segment.text)
      have hsel : Selected segment (spaced gap (ts.map (·.lexeme)) gaps) :=
        hstands.selected_spaced htail hgap
      have hbefore := segmented_blanks (hspacing.isBlank before List.mem_cons_self)
        (segment.text ++ spaced gap (ts.map (·.lexeme)) gaps ++ [])
      have hlexeme : Segmented [] (segment.text ++ spaced gap (ts.map (·.lexeme)) gaps)
          (segment :: segs) := .cons hsel.ne_nil (by rwa [List.append_nil]) hcut
      refine ⟨blanks before ++ segment :: segs, ?_, ?_⟩
      · rw [List.map_cons, spaced, ← hstands.text_eq, List.append_assoc]
        exact Segmented.append hbefore hlexeme
      · rw [tokensFrom_append, tokensFrom_blanks, tokensFrom, hstands.token?_eq]
        exact congrArg (t.content :: ·) hsame

end Lexing

/-- Whether faults are reported does not depend on where tokens stand. -/
lemma hasErrors_eq_of_content {ts us : List Token}
    (h : ts.map Token.content = us.map Token.content) : hasErrors ts = hasErrors us := by
  have hcontent (ts : List Token) :
      hasErrors ts = (ts.map Token.content).any fun content => content.1 == .error := by
    rw [List.any_map]
    rfl
  rw [hcontent, hcontent, h]

/-- **Printing and reading again.**  The tokens of a source that report no fault can be printed with
any blanks around them, at least one between any two.  The printed text has exactly these tokens,
each of the same kind and with the same lexeme, in the same order, and none that reports a fault. -/
theorem tokenize_spaced (policy : KeywordCase) (source before : Text) (gaps : List Text)
    (h : Spacing (validTokens policy source).length before gaps) :
    let printed := spaced before ((validTokens policy source).map (·.lexeme)) gaps
    (tokenize policy printed).map Token.content = (validTokens policy source).map Token.content ∧
      hasErrors (tokenize policy printed) = false := by
  intro printed
  obtain ⟨segs, hcut, hsame⟩ := segmented_spaced (fun t ht => exists_stands_of_mem ht) h .start
  rw [segmented_iff.1 hcut] at hsame
  have hcontent : (tokenize policy printed).map Token.content =
      (validTokens policy source).map Token.content := hsame
  refine ⟨hcontent, ?_⟩
  rw [hasErrors_eq_of_content hcontent, hasErrors, List.any_eq_false]
  intro t ht
  simpa using (List.mem_filter.1 ht).2

/-- Two dashes with an invalid character between them, a literal with a doubled quote, and a word in
small letters before a comment that is not closed.  The dashes stay apart when they are printed, and
the word stays the keyword. -/
theorem tokenize_spaced_of_dashes :
    let source := Text.ofString "-!-'a''\n'select#"
    let gaps := [Text.ofString "\n", Text.ofString " \t", Text.ofString " ", []]
    let printed := Text.ofString "-\n- \t'a''\n' select"
    Spacing (validTokens .insensitive source).length [] gaps ∧
      spaced [] ((validTokens .insensitive source).map (·.lexeme)) gaps = printed ∧
      (tokenize .insensitive printed).map Token.content =
        [(.operator .minus, Text.ofString "-"), (.operator .minus, Text.ofString "-"),
          (.string, Text.ofString "'a''\n'"), (.keyword .SELECT, Text.ofString "select")] ∧
      hasErrors (tokenize .insensitive printed) = false := by
  intro source gaps printed
  have hspacing : Spacing (validTokens .insensitive source).length [] gaps :=
    ⟨by decide +kernel, by decide, by decide⟩
  have hprinted : spaced [] ((validTokens .insensitive source).map (·.lexeme)) gaps = printed := by
    decide +kernel
  have hagain := tokenize_spaced .insensitive source [] gaps hspacing
  rw [hprinted] at hagain
  exact ⟨hspacing, hprinted, hagain.1.trans (by decide +kernel), hagain.2⟩

end SqlFrontEnd
