import Mathlib
import SqlFrontEnd.Proofs.Lexing.Reference
import SqlFrontEnd.Proofs.Lexing.Relocation

/-!
# Reconstruction from places

The tokens of a source say where they come from.  From its line and its column each gets an offset,
by walking over the source, and from its kind and its lexeme a number of characters.  The ranges
that come out of this follow one another without overlap, a lexeme is the text of its range, and
what lies between two ranges is blanks and comments only.

* `Token.range?` — the range of a token, computed from the token and the source alone.
* `Trivia` — texts that consist of blanks and comments.
* `Gap` — a stretch of the source that no range covers and that cannot be made longer.
* `ranges` — the ranges as the segmentation has them, on which the proofs are by induction.
* **`tokens_reconstruct`** — the tokens and the source fit.
-/

namespace SqlFrontEnd

open Place Lexing

namespace Token

/-- How many characters of a source the token at an offset stands for: its lexeme, a single
character that is invalid, or all that is left where something is not closed. -/
def extent (source : Text) (offset : ℕ) (t : Token) : ℕ :=
  if t.isError then
    if (Text.ofString "Invalid character").isPrefixOf t.lexeme then 1
    else if (Text.ofString "Unclosed").isPrefixOf t.lexeme then source.length - offset
    else 0
  else t.lexeme.length

/-- The range of a source that a token stands for: the offset of its place and the offset after its
last character. -/
def range? (source : Text) (t : Token) : Option (ℕ × ℕ) :=
  (offset? source t.line t.column).map fun offset => (offset, offset + t.extent source offset)

end Token

namespace Lexing

/-- A text of blanks and comments, where it goes on with `after`.  A line comment reaches to the end
of its line or of the text, a block comment to its closing mark. -/
inductive Trivia (after : Text) : Text → Prop
  | nil : Trivia after []
  | blank {c : CodePoint} {s : Text} : c.holds Text.isBlank → Trivia after s → Trivia after (c :: s)
  | lineComment {body s : Text} : .char '\n' ∉ body → (∀ c ∈ (s ++ after).head?, c = .char '\n') →
      Trivia after s → Trivia after (.char '-' :: .char '-' :: body ++ s)
  | blockComment {body s : Text} : .char '#' ∉ body → Trivia after s →
      Trivia after (.char '#' :: body ++ [.char '#'] ++ s)

/-- An offset lies in a range. -/
def Covers (r : ℕ × ℕ) (k : ℕ) : Prop := r.1 ≤ k ∧ k < r.2

/-- An offset lies in one of the ranges. -/
def Covered (ranges : List (ℕ × ℕ)) (k : ℕ) : Prop := ∃ r ∈ ranges, Covers r k

/-- A stretch of offsets between `first` and `last` that no range covers and that cannot be made
longer at either end. -/
structure Gap (ranges : List (ℕ × ℕ)) (first last i j : ℕ) : Prop where
  first_le : first ≤ i
  lt : i < j
  le_last : j ≤ last
  not_covered : ∀ k, i ≤ k → k < j → ¬ Covered ranges k
  left : i = first ∨ Covered ranges (i - 1)
  right : j = last ∨ Covered ranges j

/-- The ranges of the segments that are not skipped, from an offset on. -/
def ranges : ℕ → List Segment → List (ℕ × ℕ)
  | _, [] => []
  | offset, segment :: segs =>
    if segment.isSkipped then ranges (offset + segment.text.length) segs
    else (offset, offset + segment.text.length) :: ranges (offset + segment.text.length) segs

/-! ## The range of a token -/

/-- Only the report of an invalid character begins with these words. -/
lemma invalid_isPrefixOf_iff (diagnostic : Diagnostic) (s : Text) :
    (Text.ofString "Invalid character").isPrefixOf (Text.ofString diagnostic.summary ++ s) = true ↔
      ∃ c, diagnostic = .invalidCharacter c := by
  cases diagnostic with
  | invalidCharacter c =>
      obtain ⟨s', hs⟩ : ∃ s', Text.ofString (Diagnostic.invalidCharacter c).summary =
          Text.ofString "Invalid character " ++ s' :=
        ⟨_, (Text.ofString_append _ _).trans
          ((congrArg (· ++ _) (Text.ofString_append _ _)).trans (List.append_assoc _ _ _))⟩
      rw [hs, List.append_assoc]
      simp [Text.ofString, Text.ofChars]
  | unclosedComment =>
      change (Text.ofString _).isPrefixOf
        (Text.ofString "Unclosed comment starting at" ++ s) = _ ↔ _
      simp [Text.ofString, Text.ofChars, List.isPrefixOf]
  | unclosedString =>
      change (Text.ofString _).isPrefixOf
        (Text.ofString "Unclosed string literal starting at" ++ s) = _ ↔ _
      simp [Text.ofString, Text.ofChars, List.isPrefixOf]

/-- The reports of what is not closed begin with the same word. -/
lemma unclosed_isPrefixOf {diagnostic : Diagnostic} (s : Text)
    (h : diagnostic = .unclosedComment ∨ diagnostic = .unclosedString) :
    (Text.ofString "Unclosed").isPrefixOf (Text.ofString diagnostic.summary ++ s) = true := by
  rcases h with rfl | rfl
  · change (Text.ofString _).isPrefixOf (Text.ofString "Unclosed comment starting at" ++ s) = _
    simp [Text.ofString, Text.ofChars]
  · change (Text.ofString _).isPrefixOf
      (Text.ofString "Unclosed string literal starting at" ++ s) = _
    simp [Text.ofString, Text.ofChars]

/-- The report of a fault stands for the text of its segment. -/
lemma extent_of_fault {segment : Segment} {rest before : Text} {t : Token} {p : Place}
    {diagnostic : Diagnostic} (hsel : Selected segment rest)
    (hitem : segment.item = .fault diagnostic) (herror : t.isError = true)
    (hlexeme : t.lexeme = Text.ofString (diagnostic.message p)) :
    t.extent (before ++ (segment.text ++ rest)) before.length = segment.text.length := by
  rw [Diagnostic.ofString_message] at hlexeme
  have hinvalid := invalid_isPrefixOf_iff diagnostic (wording p.line p.column)
  rw [← hlexeme] at hinvalid
  obtain ⟨c, hd, htext⟩ | ⟨hopen, rfl⟩ := hsel.of_fault hitem
  · rw [Token.extent, if_pos herror, if_pos (hinvalid.2 ⟨c, hd⟩), htext, List.length_singleton]
  · have hunclosed := unclosed_isPrefixOf (wording p.line p.column) hopen
    rw [← hlexeme] at hunclosed
    have hvalid : ¬ ∃ c, diagnostic = .invalidCharacter c := by rcases hopen with rfl | rfl <;> simp
    rw [Token.extent, if_pos herror, if_neg (mt hinvalid.1 hvalid), if_pos hunclosed]
    simp

/-- The token of a segment that reports no fault has the text of the segment. -/
lemma Gives.lexeme_eq_text {policy : KeywordCase} {source : Text} {offset : ℕ} {segment : Segment}
    {t : Token} (h : Gives policy source offset segment t)
    (hitem : ∀ diagnostic, segment.item ≠ .fault diagnostic) :
    t.isError = false ∧ t.lexeme = segment.text := by
  obtain ⟨hkind, hlexeme, -, -⟩ := h
  obtain ⟨item, text⟩ := segment
  cases item with
  | fault diagnostic => exact absurd rfl (hitem diagnostic)
  | blank | lineComment | blockComment => cases hkind
  | word =>
      rw [Segment.kind?, Option.some.injEq] at hkind
      refine ⟨?_, hlexeme⟩
      simpa [Token.isError, ← hkind] using wordKind_ne_error policy text
  | number | string | operator | delimiter =>
      rw [Segment.kind?, Option.some.injEq] at hkind
      exact ⟨by rw [Token.isError, ← hkind]; rfl, hlexeme⟩

/-- **The range of a token is the range of its segment**, and the lexeme is the text there. -/
lemma range?_of_gives {policy : KeywordCase} {before rest : Text} {segment : Segment} {t : Token}
    (hsel : Selected segment rest)
    (h : Gives policy (before ++ (segment.text ++ rest)) before.length segment t) :
    t.range? (before ++ (segment.text ++ rest)) =
        some (before.length, before.length + segment.text.length) ∧
      (t.isError = false → t.lexeme = segment.text) := by
  have hoffset : offset? (before ++ (segment.text ++ rest)) t.line t.column =
      some before.length := by
    rw [h.line_eq, h.column_eq, placeAt_append, offset?_after]
  have hextent : t.extent (before ++ (segment.text ++ rest)) before.length = segment.text.length ∧
      (t.isError = false → t.lexeme = segment.text) := by
    by_cases hfault : ∃ diagnostic, segment.item = .fault diagnostic
    · obtain ⟨diagnostic, hitem⟩ := hfault
      have hkind := h.kind_eq
      have hlexeme := h.lexeme_eq
      rw [Segment.kind?, hitem, Option.some.injEq] at hkind
      rw [hitem] at hlexeme
      have herror : t.isError = true := by rw [Token.isError, ← hkind]; rfl
      exact ⟨extent_of_fault hsel hitem herror hlexeme, by simp [herror]⟩
    · obtain ⟨hvalid, hlexeme⟩ := h.lexeme_eq_text (not_exists.1 hfault)
      rw [Token.extent, hvalid, hlexeme]
      exact ⟨rfl, fun _ => rfl⟩
  rw [Token.range?, hoffset, Option.map_some, hextent.1]
  exact ⟨rfl, hextent.2⟩

/-! ## The ranges of all tokens -/

/-- **Each token has its range**, in order, and the text of the range is its lexeme. -/
lemma forall₂_range? (policy : KeywordCase) (before : Text) {s : Text} {segs : List Segment}
    (h : Segmented [] s segs) :
    List.Forall₂
      (fun t r => t.range? (before ++ s) = some r ∧
        (t.isError = false → ((before ++ s).take r.2).drop r.1 = t.lexeme))
      (tokensFrom policy (start.after before) segs) (ranges before.length segs) := by
  induction h generalizing before with
  | nil => exact .nil
  | @cons segment rest segs _ hsel _ ih =>
      have htail := ih (before ++ segment.text)
      rw [List.append_nil] at hsel
      rw [List.length_append, after_append, List.append_assoc] at htail
      have hplace : start.after before =
          placeAt (before ++ (segment.text ++ rest)) before.length := (placeAt_append _ _).symm
      rw [ranges, tokensFrom]
      obtain ⟨hskip, hnone⟩ | ⟨t, hkeep, hsome, hgives⟩ :=
        token?_cases policy (before ++ (segment.text ++ rest)) before.length segment
      · rw [hplace, hnone, ← hplace, if_pos hskip]
        exact htail
      · obtain ⟨hrange, hlexeme⟩ := range?_of_gives hsel hgives
        rw [hplace, hsome, ← hplace, hkeep]
        refine .cons ⟨hrange, fun hvalid => ?_⟩ htail
        rw [hlexeme hvalid, ← List.append_assoc, ← List.length_append, List.take_left,
          List.drop_left]

/-- Ranges lie in the text, and none is empty. -/
lemma bounds_of_mem_ranges {after s : Text} {segs : List Segment} (h : Segmented after s segs)
    {offset : ℕ} : ∀ r ∈ ranges offset segs,
      offset ≤ r.1 ∧ r.1 < r.2 ∧ r.2 ≤ offset + s.length := by
  induction h generalizing offset with
  | nil => simp [ranges]
  | @cons segment rest segs hne _ _ ih =>
      have hpos := List.length_pos_iff.2 hne
      intro r hr
      rw [ranges] at hr
      rw [List.length_append]
      split at hr
      · have := ih r hr
        omega
      · rcases List.mem_cons.1 hr with rfl | hr
        · exact ⟨le_rfl, by show offset < offset + _; omega, by show offset + _ ≤ _; omega⟩
        · have := ih r hr
          omega

/-- Ranges follow one another without overlap. -/
lemma pairwise_ranges {after s : Text} {segs : List Segment} (h : Segmented after s segs)
    (offset : ℕ) : (ranges offset segs).Pairwise fun r r' => r.2 ≤ r'.1 := by
  induction h generalizing offset with
  | nil => exact .nil
  | cons _ _ htail ih =>
      rw [ranges]
      split
      · exact ih _
      · exact .cons (fun r hr => (bounds_of_mem_ranges htail r hr).1) (ih _)

/-- The tokens of later segments are told at later places. -/
lemma exists_after_of_mem {policy : KeywordCase} {p : Place} {segs : List Segment} {t : Token}
    (h : t ∈ tokensFrom policy p segs) :
    ∃ s, t.line = (p.after s).line ∧ t.column = (p.after s).column := by
  induction segs generalizing p with
  | nil => cases h
  | cons segment segs ih =>
      rw [tokensFrom, List.mem_append, Option.mem_toList] at h
      rcases h with h | h
      · obtain ⟨hline, hcolumn, -⟩ := place_of_mem_token? h
        exact ⟨[], hline, hcolumn⟩
      · obtain ⟨s, hline, hcolumn⟩ := ih h
        rw [← after_append] at hline hcolumn
        exact ⟨segment.text ++ s, hline, hcolumn⟩

/-- **Places grow from token to token.** -/
lemma pairwise_tokensFrom {after s : Text} {segs : List Segment} (h : Segmented after s segs)
    (policy : KeywordCase) (p : Place) :
    (tokensFrom policy p segs).Pairwise fun t t' =>
      t.line < t'.line ∨ t.line = t'.line ∧ t.column < t'.column := by
  induction h generalizing p with
  | nil => exact .nil
  | @cons segment _ _ hne _ _ ih =>
      rw [tokensFrom, List.pairwise_append]
      refine ⟨by cases segment.token? policy p <;> simp, ih _, fun t ht t' ht' => ?_⟩
      obtain ⟨hline, hcolumn, -⟩ := place_of_mem_token? (Option.mem_toList.1 ht)
      obtain ⟨u, hline', hcolumn'⟩ := exists_after_of_mem ht'
      rw [← after_append] at hline' hcolumn'
      have hlt := after_precedes p (s := segment.text ++ u)
        (List.append_ne_nil_of_left_ne_nil hne u)
      rw [hline, hcolumn, hline', hcolumn']
      omega

/-! ## Between the ranges

A gap begins and ends where a segment does, since a range covers all of a segment or nothing of it.
So what is in a gap is the text of skipped segments. -/

/-- A skipped segment is a blank or a comment, also with more of them after it. -/
lemma Trivia.append_segment {segment : Segment} {after s : Text}
    (hskip : segment.isSkipped = true) (hsel : Selected segment (s ++ after))
    (h : Trivia after s) : Trivia after (segment.text ++ s) := by
  have hfits := hsel.fits
  obtain ⟨item, text⟩ := segment
  cases item with
  | blank =>
      obtain ⟨c, hc, rfl⟩ := hfits
      exact .blank hc h
  | lineComment =>
      obtain ⟨body, rfl, hbody, hrest⟩ := hfits
      exact .lineComment (fun hmem => hbody _ hmem rfl) (fun c hc => not_not.1 (hrest c hc)) h
  | blockComment =>
      obtain ⟨body, hbody, rfl⟩ := hfits
      exact .blockComment hbody h
  | word | number | string | operator | delimiter | fault => cases hskip

/-- A gap that begins behind some ranges is a gap between the others. -/
lemma Gap.behind {rs rs' : List (ℕ × ℕ)} {first first' last i j : ℕ} (h : Gap rs first last i j)
    (hfirst : first ≤ first') (hi : first' ≤ i)
    (hrs : ∀ k, first' ≤ k → (Covered rs k ↔ Covered rs' k)) : Gap rs' first' last i j := by
  obtain ⟨-, hij, hj, hnot, hleft, hright⟩ := h
  refine ⟨hi, hij, hj, fun k hk hkj => ?_, ?_, ?_⟩
  · rw [← hrs k (by omega)]
    exact hnot k hk hkj
  · rcases hi.eq_or_lt with rfl | hlt
    · exact .inl rfl
    · exact .inr ((hrs _ (by omega)).1 (hleft.resolve_left (by omega)))
  · exact hright.imp_right (hrs j (by omega)).1

/-- Behind the first segment the ranges are those of the other segments. -/
lemma covered_ranges_cons_iff {segment : Segment} {segs : List Segment} {offset k : ℕ}
    (hk : offset + segment.text.length ≤ k) :
    Covered (ranges offset (segment :: segs)) k ↔
      Covered (ranges (offset + segment.text.length) segs) k := by
  rw [ranges]
  split
  · exact Iff.rfl
  · simp only [Covered, Covers, List.mem_cons, exists_eq_or_imp]
    constructor
    · rintro (h | h)
      · omega
      · exact h
    · exact .inr

/-- The ranges after an offset do not cover what is before it. -/
lemma not_covered_ranges {after s : Text} {segs : List Segment} (h : Segmented after s segs)
    {offset k : ℕ} (hk : k < offset) : ¬ Covered (ranges offset segs) k := by
  rintro ⟨r, hr, hcovers⟩
  have := bounds_of_mem_ranges h r hr
  have := hcovers.1
  omega

/-- **A gap consists of blanks and comments.** -/
lemma trivia_of_gap {s : Text} {segs : List Segment} (h : Segmented [] s segs) {offset i j : ℕ}
    (hgap : Gap (ranges offset segs) offset (offset + s.length) i j) :
    Trivia (s.drop (j - offset)) ((s.take (j - offset)).drop (i - offset)) := by
  induction h generalizing offset i j with
  | nil =>
      have := hgap.first_le
      have := hgap.lt
      have := hgap.le_last
      simp only [List.length_nil] at this
      omega
  | @cons segment rest segs hne hsel htail ih =>
      have hpos := List.length_pos_iff.2 hne
      obtain ⟨next, hnext⟩ : ∃ next, next = offset + segment.text.length := ⟨_, rfl⟩
      rw [List.length_append, ← Nat.add_assoc, ← hnext] at hgap
      have hrs : ∀ k, next ≤ k →
          (Covered (ranges offset (segment :: segs)) k ↔ Covered (ranges next segs) k) := by
        intro k hk
        subst hnext
        exact covered_ranges_cons_iff hk
      -- either the gap begins behind the first segment, or it begins with all of it
      by_cases hi : next ≤ i
      · have htrivia := ih (hgap.behind (by omega) hi hrs)
        have hij := hgap.lt
        have hj' : j - offset = segment.text.length + (j - next) := by omega
        have hi' : i - offset = segment.text.length + (i - next) := by omega
        rw [hj', hi', List.drop_length_add_append, List.take_length_add_append,
          List.drop_length_add_append]
        exact htrivia
      · obtain ⟨hoffset, hij, hj, hnot, hleft, hright⟩ := hgap
        have hskip : segment.isSkipped = true := by
          by_contra hkeep
          refine hnot i le_rfl hij ⟨(offset, next), ?_, hoffset, by omega⟩
          rw [ranges, if_neg hkeep, hnext]
          exact List.mem_cons_self
        have hi' : i = offset := by
          refine hleft.resolve_right ?_
          rw [ranges, if_pos hskip, ← hnext]
          exact not_covered_ranges htail (by omega)
        have hj' : next ≤ j := by
          by_contra hlt
          rw [ranges, if_pos hskip, ← hnext] at hright
          rcases hright with h | h
          · omega
          · exact not_covered_ranges htail (by omega) h
        have hj'' : j - offset = segment.text.length + (j - next) := by omega
        rw [hi', Nat.sub_self, List.drop_zero, hj'', List.drop_length_add_append,
          List.take_length_add_append]
        refine Trivia.append_segment hskip ?_ ?_
        · rw [List.take_append_drop]
          rwa [List.append_nil] at hsel
        · rcases hj'.eq_or_lt with rfl | hlt
          · rw [Nat.sub_self, List.take_zero]
            exact .nil
          · have hgap' : Gap (ranges next segs) next (next + rest.length) next j :=
              ⟨le_rfl, hlt, hj, fun k hk hkj => (hrs k hk).not.1 (hnot k (by omega) hkj), .inl rfl,
                hright.imp_right (hrs j (by omega)).1⟩
            have htrivia := ih hgap'
            rwa [Nat.sub_self, List.drop_zero] at htrivia

/-! ## Every offset -/

/-- An offset that is covered lies in exactly one of the ranges. -/
lemma existsUnique_of_covered {rs : List (ℕ × ℕ)} {k : ℕ}
    (hrs : rs.Pairwise fun r r' => r.2 ≤ r'.1) (h : Covered rs k) :
    ∃! n : ℕ, ∃ r ∈ rs[n]?, Covers r k := by
  obtain ⟨r, hr, hcovers⟩ := h
  obtain ⟨n, hn⟩ := List.mem_iff_getElem?.1 hr
  refine ⟨n, ⟨r, hn, hcovers⟩, ?_⟩
  rintro n' ⟨r', hn', hcovers'⟩
  obtain ⟨hlt, rfl⟩ := List.getElem?_eq_some_iff.1 hn
  obtain ⟨hlt', rfl⟩ := List.getElem?_eq_some_iff.1 hn'
  have hpair := List.pairwise_iff_getElem.1 hrs
  obtain ⟨h₁, h₂⟩ := hcovers
  obtain ⟨h₁', h₂'⟩ := hcovers'
  rcases Nat.lt_trichotomy n' n with h | h | h
  · have := hpair n' n hlt' hlt h
    omega
  · exact h
  · have := hpair n n' hlt hlt' h
    omega

/-- To the left of an offset that is not covered, a range or the start is met. -/
lemma exists_gap_left {rs : List (ℕ × ℕ)} {k : ℕ} (h : ¬ Covered rs k) :
    ∃ i ≤ k, (∀ m, i ≤ m → m ≤ k → ¬ Covered rs m) ∧ (i = 0 ∨ Covered rs (i - 1)) := by
  induction k with
  | zero => exact ⟨0, le_rfl, fun m _ hm => by rwa [Nat.le_zero.1 hm], .inl rfl⟩
  | succ k ih =>
      by_cases hc : Covered rs k
      · refine ⟨k + 1, le_rfl, fun m hm hm' => ?_, .inr hc⟩
        rwa [Nat.le_antisymm hm' hm]
      · obtain ⟨i, hi, hnot, hend⟩ := ih hc
        refine ⟨i, by omega, fun m hm hm' => ?_, hend⟩
        rcases hm'.eq_or_lt with rfl | hlt
        · exact h
        · exact hnot m hm (by omega)

/-- To the right of an offset that is not covered, a range or the end is met. -/
lemma exists_gap_right {rs : List (ℕ × ℕ)} {last k : ℕ} (hk : k < last) (h : ¬ Covered rs k) :
    ∃ j, k < j ∧ j ≤ last ∧ (∀ m, k ≤ m → m < j → ¬ Covered rs m) ∧
      (j = last ∨ Covered rs j) := by
  -- on the distance to the end
  obtain ⟨d, rfl⟩ := Nat.exists_eq_add_of_lt hk
  clear hk
  induction d generalizing k with
  | zero =>
      refine ⟨k + 0 + 1, by omega, le_rfl, fun m hm hm' => ?_, .inl rfl⟩
      rwa [show m = k by omega]
  | succ d ih =>
      by_cases hc : Covered rs (k + 1)
      · refine ⟨k + 1, by omega, by omega, fun m hm hm' => ?_, .inr hc⟩
        rwa [show m = k by omega]
      · obtain ⟨j, hj, hlast, hnot, hend⟩ := ih hc
        rw [show k + 1 + d + 1 = k + (d + 1) + 1 by omega] at hlast hend
        refine ⟨j, by omega, hlast, fun m hm hm' => ?_, hend⟩
        rcases hm.eq_or_lt with rfl | hlt
        · exact h
        · exact hnot m (by omega) hm'

/-- An offset that is not covered lies in a gap. -/
lemma exists_gap {rs : List (ℕ × ℕ)} {last k : ℕ} (hk : k < last) (h : ¬ Covered rs k) :
    ∃ i j, i ≤ k ∧ k < j ∧ Gap rs 0 last i j := by
  obtain ⟨i, hi, hnot, hleft⟩ := exists_gap_left h
  obtain ⟨j, hj, hlast, hnot', hright⟩ := exists_gap_right hk h
  refine ⟨i, j, hi, hj, Nat.zero_le i, by omega, hlast, fun m hm hm' => ?_, hleft, hright⟩
  rcases Nat.le_total m k with hmk | hmk
  · exact hnot m hm hmk
  · exact hnot' m hmk hm'

end Lexing

/-! ## The source from its tokens -/

/-- **Reconstruction from places.**  Every token of a source has a range in it, found from its line
and its column.  The ranges are not empty, lie in the source and follow one another without overlap,
so lines and columns grow from token to token; the lexeme of a token that reports no fault is the
text of its range.  A stretch of the source that no range covers and that cannot be made longer
consists of blanks, line comments and closed block comments.  So every character of the source
belongs to exactly one token, or to such a stretch. -/
theorem tokens_reconstruct (policy : KeywordCase) (source : Text) :
    ∃ rs : List (ℕ × ℕ),
      List.Forall₂
        (fun t r => t.range? source = some r ∧
          (t.isError = false → (source.take r.2).drop r.1 = t.lexeme))
        (tokenize policy source) rs ∧
      (∀ r ∈ rs, r.1 < r.2 ∧ r.2 ≤ source.length) ∧
      (rs.Pairwise fun r r' => r.2 ≤ r'.1) ∧
      ((tokenize policy source).Pairwise fun t t' =>
        t.line < t'.line ∨ t.line = t'.line ∧ t.column < t'.column) ∧
      (∀ i j, Gap rs 0 source.length i j →
        Trivia (source.drop j) ((source.take j).drop i)) ∧
      ∀ k < source.length, (∃! n : ℕ, ∃ r ∈ rs[n]?, Covers r k) ∨
        ∃ i j, i ≤ k ∧ k < j ∧ Gap rs 0 source.length i j := by
  have hsegs := segmented_segments source
  have hpair := pairwise_ranges hsegs 0
  refine ⟨ranges 0 (segments source), forall₂_range? policy [] hsegs, fun r hr => ?_, hpair,
    pairwise_tokensFrom hsegs policy .start, fun i j hgap => ?_, fun k hk => ?_⟩
  · have := bounds_of_mem_ranges hsegs r hr
    omega
  · have hgap' : Gap (ranges 0 (segments source)) 0 (0 + source.length) i j := by
      rwa [Nat.zero_add]
    exact trivia_of_gap hsegs hgap'
  · by_cases hc : Covered (ranges 0 (segments source)) k
    · exact .inl (existsUnique_of_covered hpair hc)
    · exact .inr (exists_gap hk hc)

end SqlFrontEnd
