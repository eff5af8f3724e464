import Mathlib
import SqlFrontEnd.Proofs.Lexing.Closing
import SqlFrontEnd.Proofs.Lexing.Driving

/-!
# Where a string literal ends

The search for the end of a literal decides quote by quote, with one character of lookahead.  Seen
from afar it counts: quotes stand in runs, a run of even length is made of doubled quotes, and the
first run of odd length has one quote too many, which is the last of the run and ends the literal.

* `QuoteRun`, `FirstOddRun` — the maximal runs of quotes of a text, and the first of odd length.
* `exists_doubled_of_even` — a text in which all runs are even is a content with its quotes doubled.
* `exists_firstOddRun` — where there is an odd run there is a first one.
* **`throughQuote_of_firstOddRun`**, **`throughQuote_of_even`** — the search ends with the first odd
  run, or finds nothing.
* **`perform_string`** — so does the rule, wherever a cursor stands at a quote.
-/

namespace SqlFrontEnd.Lexing

/-- A maximal run of `n` quotes in a text, with what stands before it and behind it. -/
structure QuoteRun (s before : Text) (n : ℕ) (behind : Text) : Prop where
  split : s = before ++ List.replicate n (.char '\'') ++ behind
  pos : 0 < n
  getLast?_before : before.getLast? ≠ some (.char '\'')
  head?_behind : behind.head? ≠ some (.char '\'')

/-- The first run of odd length: every run that starts earlier is even. -/
structure FirstOddRun (s before : Text) (n : ℕ) (behind : Text) : Prop
    extends QuoteRun s before n behind where
  odd : Odd n
  even_of_earlier : ∀ before' n' behind', QuoteRun s before' n' behind' →
    before'.length < before.length → Even n'

/-! ## Runs and doubled quotes -/

lemma doubled_append (v w : Text) : doubled (v ++ w) = doubled v ++ doubled w := by
  induction v with
  | nil => rfl
  | cons c v ih =>
      rw [List.cons_append, doubled, doubled, ih]
      split <;> rfl

/-- A run of doubled quotes has twice the length. -/
lemma doubled_replicate (m : ℕ) :
    doubled (List.replicate m (.char '\'')) = List.replicate (2 * m) (.char '\'') := by
  induction m with
  | zero => rfl
  | succ m ih => rw [List.replicate_succ, doubled_quote_cons, ih]; rfl

/-- Doubling keeps the last character. -/
lemma getLast?_doubled (v : Text) : (doubled v).getLast? = v.getLast? := by
  induction v with
  | nil => rfl
  | cons c v ih =>
      have hlast (c : CodePoint) (s t : Text) (h : s.getLast? = t.getLast?) :
          (c :: s).getLast? = (c :: t).getLast? := by
        rw [List.getLast?_cons, List.getLast?_cons, h]
      rw [doubled]
      split
      · rw [List.getLast?_cons_cons]
        exact hlast c _ _ ih
      · exact hlast c _ _ ih

/-- Every text ends in a run of quotes, which may be empty. -/
lemma exists_trailing_quotes (v : Text) :
    ∃ w m, v = w ++ List.replicate m (.char '\'') ∧ w.getLast? ≠ some (.char '\'') := by
  induction v using List.reverseRecOn with
  | nil => exact ⟨[], 0, rfl, by simp⟩
  | append_singleton v c ih =>
      by_cases hc : c = .char '\''
      · obtain ⟨w, m, hv, hw⟩ := ih
        refine ⟨w, m + 1, ?_, hw⟩
        rw [hv, hc, List.replicate_succ', List.append_assoc]
      · exact ⟨v ++ [c], 0, by simp, by simpa using hc⟩

/-- **A text in which all runs are even** is a content with its quotes doubled. -/
lemma exists_doubled_of_even {s : Text}
    (h : ∀ before n behind, QuoteRun s before n behind → Even n) : ∃ v, s = doubled v := by
  obtain hv | ⟨v, rest, hs, hrest⟩ := exists_doubled s
  · exact hv
  · -- the quotes that end the content make an odd run with the closing one
    obtain ⟨w, m, hv, hw⟩ := exists_trailing_quotes v
    have hrun : QuoteRun s (doubled w) (2 * m + 1) rest := by
      refine ⟨?_, Nat.succ_pos _, by rwa [getLast?_doubled], hrest⟩
      rw [hs, hv, doubled_append, doubled_replicate, List.replicate_succ']
      simp
    exact absurd (h _ _ _ hrun) (Nat.not_even_bit1 m)

/-! ## The first odd run -/

/-- A run in what stands before a run is one of the whole text. -/
lemma QuoteRun.of_before {s before behind b a : Text} {n m : ℕ} (h : QuoteRun s before n behind)
    (hrun : QuoteRun before b m a) : ∃ a', QuoteRun s b m a' ∧ b.length < before.length := by
  obtain ⟨hsplit, hpos, hlast, hhead⟩ := hrun
  have hne : a ≠ [] := by
    rintro rfl
    refine h.getLast?_before ?_
    rw [hsplit, List.append_nil, List.getLast?_append, List.getLast?_replicate, if_neg hpos.ne']
    rfl
  refine ⟨a ++ List.replicate n (.char '\'') ++ behind, ⟨?_, hpos, hlast, ?_⟩, ?_⟩
  · rw [h.split, hsplit]
    simp
  · rw [List.append_assoc, List.head?_append_of_ne_nil _ hne]
    exact hhead
  · rw [hsplit]
    simp only [List.length_append, List.length_replicate]
    omega

/-- Where there is an odd run there is a first one. -/
lemma exists_firstOddRun {s : Text} (h : ∃ before n behind, QuoteRun s before n behind ∧ Odd n) :
    ∃ before n behind, FirstOddRun s before n behind := by
  classical
  have hlength : ∃ k, ∃ before n behind,
      (QuoteRun s before n behind ∧ Odd n) ∧ before.length = k := by
    obtain ⟨before, n, behind, hrun⟩ := h
    exact ⟨_, before, n, behind, hrun, rfl⟩
  obtain ⟨before, n, behind, ⟨hrun, hodd⟩, hk⟩ := Nat.find_spec hlength
  refine ⟨before, n, behind, hrun, hodd, fun b m a hearlier hlt => ?_⟩
  by_contra hm
  refine Nat.find_min hlength (hk ▸ hlt) ⟨b, m, a, ⟨hearlier, ?_⟩, rfl⟩
  exact Nat.not_even_iff_odd.1 hm

/-! ## The search -/

/-- **The search ends with the first odd run.** -/
lemma throughQuote_of_firstOddRun {s before behind : Text} {n : ℕ}
    (h : FirstOddRun s before n behind) :
    throughQuote s = some ⟨before ++ List.replicate n (.char '\''), behind⟩ := by
  have heven : ∀ b m a, QuoteRun before b m a → Even m := by
    intro b m a hrun
    obtain ⟨a', hrun', hlt⟩ := h.toQuoteRun.of_before hrun
    exact h.even_of_earlier _ _ _ hrun' hlt
  obtain ⟨v, hv⟩ := exists_doubled_of_even heven
  obtain ⟨m, hm⟩ := h.odd
  refine throughQuote_eq_some_iff.2
    ⟨v ++ List.replicate m (.char '\''), ?_, h.split, h.head?_behind⟩
  rw [doubled_append, doubled_replicate, ← hv, hm, List.replicate_succ', ← List.append_assoc]

/-- **The search finds nothing where all runs are even.** -/
lemma throughQuote_of_even {s : Text}
    (h : ∀ before n behind, QuoteRun s before n behind → Even n) : throughQuote s = none :=
  throughQuote_eq_none_iff.2 (exists_doubled_of_even h)

end SqlFrontEnd.Lexing

namespace SqlFrontEnd.Cursor

open Lexing Place

variable {policy : KeywordCase} {source : Text} {c : Cursor}

/-- A cursor that stands at a character has it before what follows. -/
lemma Located.rest_eq (h : c.Located source) {x : CodePoint} (hx : source[c.offset]? = some x) :
    c.rest = x :: source.drop (c.offset + 1) := by
  rw [rest, h.source_eq]
  obtain ⟨hlt, rfl⟩ := List.getElem?_eq_some_iff.1 hx
  exact List.drop_eq_getElem_cons hlt

/-- The place of a located cursor, by counting. -/
lemma Located.place_eq (h : c.Located source) : c.place = placeAt source c.offset := by
  obtain ⟨-, hoffset, hplace⟩ := located_iff.1 h
  rw [hplace, placeAt_eq hoffset]

/-- The rule for literals takes the segment that starts at the cursor, which is a piece of the
source. -/
lemma Located.perform_stringLiteral (h : c.Located source) {x : CodePoint}
    (hx : source[c.offset]? = some x) {item : Item} {text behind : Text}
    (hliteral : stringLiteral x (source.drop (c.offset + 1)) = (⟨item, text⟩, behind))
    {stop : ℕ} (hstop : c.offset + text.length = stop) :
    c.perform policy .string = (.done,
      { source := source
        offset := stop
        place := placeAt source stop
        tokens := c.tokens ++
          (Segment.token? policy (placeAt source c.offset)
            ⟨item, (source.take stop).drop c.offset⟩).toList
        halted := c.halted || item == .fault .unclosedString }) := by
  have htext : text <+: c.rest := by
    have happend := stringLiteral_append x (source.drop (c.offset + 1))
    rw [hliteral, ← h.rest_eq hx] at happend
    exact ⟨behind, happend⟩
  have hplace : c.place.after text = placeAt source (c.offset + text.length) :=
    (h.move htext).place_eq
  have htake : c.perform policy .string = (.done, c.take policy ⟨item, text⟩) := by
    simp only [Cursor.perform, takeFirst, h.rest_eq hx, hliteral]
    rfl
  rw [htake, Cursor.take, Cursor.move, hplace, h.place_eq, h.source_eq, ← hstop, h.slice_eq htext]

/-- The report of an unclosed literal, in full. -/
lemma message_unclosedString (p : Place) : Diagnostic.unclosedString.message p =
    "Unclosed string literal starting at line " ++ Decimal.text p.line ++ ", column " ++
      Decimal.text p.column := by
  have hwords : "Unclosed string literal starting at" ++ " line " =
      "Unclosed string literal starting at line " := by decide
  rw [← hwords]
  rfl

/-- **Where a string literal ends.**  The rule for literals, performed at a quote, looks at the runs
of quotes behind it.  If one of them is odd, the rule adds one string token, from the quote to the
end of the first odd run, and the cursor stands behind it.  If all of them are even, the rule
reports the literal as unclosed, at the place of the quote, and the cursor is halted at the end. -/
theorem perform_string (policy : KeywordCase) {source : Text} {c : Cursor}
    (hlocated : c.Located source) (hquote : source[c.offset]? = some (.char '\'')) :
    let opening := placeAt source c.offset
    let rest := source.drop (c.offset + 1)
    ((∃ before n behind, QuoteRun rest before n behind ∧ Odd n) →
      ∃ before n behind, FirstOddRun rest before n behind ∧
        let stop := c.offset + 1 + before.length + n
        c.perform policy .string = (.done,
          { source := source
            offset := stop
            place := placeAt source stop
            tokens := c.tokens ++
              [⟨.string, (source.take stop).drop c.offset, opening.line, opening.column⟩]
            halted := c.halted })) ∧
    ((∀ before n behind, QuoteRun rest before n behind → Even n) →
      c.perform policy .string = (.done,
        { source := source
          offset := source.length
          place := placeAt source source.length
          tokens := c.tokens ++
            [⟨.error, Text.ofString ("Unclosed string literal starting at line " ++
              Decimal.text opening.line ++ ", column " ++ Decimal.text opening.column),
              opening.line, opening.column⟩]
          halted := true })) := by
  intro opening rest
  refine ⟨fun hodd => ?ends, fun heven => ?unclosed⟩
  case ends =>
    obtain ⟨before, n, behind, hfirst⟩ := exists_firstOddRun hodd
    have hliteral : stringLiteral (.char '\'') rest =
        (⟨.string, .char '\'' :: (before ++ List.replicate n (.char '\''))⟩, behind) := by
      rw [stringLiteral, throughQuote_of_firstOddRun hfirst]
    have hstop : c.offset + (.char '\'' :: (before ++ List.replicate n (.char '\''))).length =
        c.offset + 1 + before.length + n := by
      simp only [List.length_cons, List.length_append, List.length_replicate]
      omega
    refine ⟨before, n, behind, hfirst, ?_⟩
    rw [hlocated.perform_stringLiteral hquote hliteral hstop]
    simp [Segment.token?, opening]
  case unclosed =>
    have hliteral : stringLiteral (.char '\'') rest =
        (⟨.fault .unclosedString, .char '\'' :: rest⟩, []) := by
      rw [stringLiteral, throughQuote_of_even heven]
    have hstop : c.offset + (.char '\'' :: rest).length = source.length := by
      obtain ⟨hlt, -⟩ := List.getElem?_eq_some_iff.1 hquote
      rw [List.length_cons, List.length_drop]
      omega
    rw [hlocated.perform_stringLiteral hquote hliteral hstop, ← message_unclosedString]
    simp [Segment.token?, opening]

/-- A literal with doubled quotes inside and one at its end, before a plus sign. -/
def quotedSource : Text := "'a''b'''+"

/-- Of the two runs behind the opening quote the second is odd, so the literal ends with it. -/
theorem perform_string_of_doubled :
    (start quotedSource).Located quotedSource ∧ quotedSource[0]? = some (.char '\'') ∧
      (QuoteRun (quotedSource.drop 1) "a''b" 3 "+" ∧ Odd 3) ∧
      ∃ before n behind, FirstOddRun (quotedSource.drop 1) before n behind ∧
        (start quotedSource).perform .sensitive .string = (.done,
          { source := quotedSource
            offset := 0 + 1 + before.length + n
            place := placeAt quotedSource (0 + 1 + before.length + n)
            tokens := [] ++
              [⟨.string, (quotedSource.take (0 + 1 + before.length + n)).drop 0, 1, 1⟩]
            halted := false }) := by
  have hrun : QuoteRun (quotedSource.drop 1) "a''b" 3 "+" :=
    ⟨by decide, by decide, by decide, by decide⟩
  have hodd : Odd 3 := by decide
  refine ⟨located_start _, by decide, ⟨hrun, hodd⟩, ?_⟩
  exact (perform_string .sensitive (located_start quotedSource) (by decide)).1
    ⟨_, _, _, hrun, hodd⟩

end SqlFrontEnd.Cursor
