import Mathlib
import SqlFrontEnd.Lexing.Cursor
import SqlFrontEnd.Proofs.Lexing.Position
import SqlFrontEnd.Proofs.Lexing.Segmentation

/-!
# Reference lexing

The tokens of a source are told here without reading it: take the segmentation of the source, drop
the blanks and the closed comments, and let every other segment give one token, at the place that
is counted from the offset of the segment.

* `located` — segments with their offsets.
* `Gives` — what the token of a segment is: its kind, its lexeme, its line and its column.
* `forall₂_tokenize` — the segments that are not skipped give the tokens, in order.
* `tokens_run` — a cursor that scans until it halts finds the same tokens.
* **`tokenize_of_segmentation`** — the whole reference in one statement.
-/

namespace SqlFrontEnd.Lexing

open Place

/-- Segments with the offsets at which they start, the first of which is given. -/
def located : ℕ → List Segment → List (ℕ × Segment)
  | _, [] => []
  | offset, segment :: segs => (offset, segment) :: located (offset + segment.text.length) segs

namespace Segment

/-- Blanks and closed comments are skipped. -/
def isSkipped (segment : Segment) : Bool :=
  match segment.item with
  | .blank | .lineComment | .blockComment => true
  | _ => false

/-- The kind of the token that a segment gives. -/
def kind? (policy : KeywordCase) (segment : Segment) : Option TokenKind :=
  match segment.item with
  | .blank | .lineComment | .blockComment => none
  | .word => some (wordKind policy segment.text)
  | .number => some .number
  | .string => some .string
  | .operator symbol => some (.operator symbol)
  | .delimiter symbol => some (.delimiter symbol)
  | .fault _ => some .error

end Segment

/-- A segment at an offset of a source gives a token. -/
structure Gives (policy : KeywordCase) (source : Text) (offset : ℕ) (segment : Segment)
    (t : Token) : Prop where
  kind_eq : segment.kind? policy = some t.kind
  lexeme_eq : t.lexeme =
    match segment.item with
    | .fault diagnostic => Text.ofString (diagnostic.message (placeAt source offset))
    | _ => segment.text
  line_eq : t.line = (placeAt source offset).line
  column_eq : t.column = (placeAt source offset).column

/-- The segments of a source that are not skipped, with their offsets. -/
def kept (segs : List Segment) : List (ℕ × Segment) :=
  (located 0 segs).filter fun entry => !entry.2.isSkipped

/-! ## Tokens and segments -/

/-- A segment is skipped, or its token is as the reference tells. -/
lemma token?_cases (policy : KeywordCase) (source : Text) (offset : ℕ) (segment : Segment) :
    (segment.isSkipped = true ∧ segment.token? policy (placeAt source offset) = none) ∨
      ∃ t, segment.isSkipped = false ∧
        segment.token? policy (placeAt source offset) = some t ∧
        Gives policy source offset segment t := by
  obtain ⟨item, text⟩ := segment
  cases item with
  | blank | lineComment | blockComment => exact .inl ⟨rfl, rfl⟩
  | word | number | string | operator | delimiter | fault =>
      exact .inr ⟨_, rfl, rfl, rfl, rfl, rfl, rfl⟩

/-- The tokens of the segments from an offset on, carried along or told by the reference. -/
lemma forall₂_tokensFrom (policy : KeywordCase) (before : Text) (segs : List Segment) :
    List.Forall₂
      (fun entry t => Gives policy (before ++ segs.flatMap (·.text)) entry.1 entry.2 t)
      ((located before.length segs).filter fun entry => !entry.2.isSkipped)
      (tokensFrom policy (start.after before) segs) := by
  induction segs generalizing before with
  | nil => exact .nil
  | cons segment segs ih =>
      have htail := ih (before ++ segment.text)
      rw [List.length_append, after_append, List.append_assoc] at htail
      have hplace : start.after before =
          placeAt (before ++ (segment :: segs).flatMap (·.text)) before.length :=
        (placeAt_append _ _).symm
      rw [located, tokensFrom, List.filter_cons]
      obtain ⟨hskip, hnone⟩ | ⟨t, hkeep, hsome, hgives⟩ :=
        token?_cases policy (before ++ (segment :: segs).flatMap (·.text)) before.length segment
      · rw [hplace, hnone, ← hplace, hskip]
        exact htail
      · rw [hplace, hsome, ← hplace, hkeep]
        exact .cons hgives htail

/-- **The segments that are not skipped give the tokens of a source**, in order. -/
lemma forall₂_tokenize (policy : KeywordCase) {source : Text} {segs : List Segment}
    (h : Segmented [] source segs) :
    List.Forall₂ (fun entry t => Gives policy source entry.1 entry.2 t) (kept segs)
      (tokenize policy source) := by
  obtain rfl := segmented_iff.1 h
  have hall := forall₂_tokensFrom policy [] (segments source)
  rwa [List.nil_append, segments_flatten] at hall

/-- A located segment stands after the segments before it. -/
lemma exists_of_mem_located {offset : ℕ} {segs : List Segment} {entry : ℕ × Segment}
    (h : entry ∈ located offset segs) :
    ∃ a b, segs = a ++ entry.2 :: b ∧ entry.1 = offset + (a.flatMap (·.text)).length := by
  induction segs generalizing offset with
  | nil => cases h
  | cons segment segs ih =>
      rcases List.mem_cons.1 h with rfl | h
      · exact ⟨[], segs, rfl, rfl⟩
      · obtain ⟨a, b, rfl, ho⟩ := ih h
        refine ⟨segment :: a, b, rfl, ?_⟩
        rw [ho, List.flatMap_cons, List.length_append, Nat.add_assoc]

/-- **Every token comes from a segment**, at the place where the segment starts. -/
lemma exists_gives_of_mem {policy : KeywordCase} {source : Text} {t : Token}
    (h : t ∈ tokenize policy source) :
    ∃ a segment b, segments source = a ++ segment :: b ∧
      Gives policy source (a.flatMap (·.text)).length segment t := by
  have hall := forall₂_tokenize policy (segmented_segments source)
  obtain ⟨entry, hentry, hgives⟩ : ∃ entry ∈ kept (segments source),
      Gives policy source entry.1 entry.2 t := by
    generalize kept (segments source) = entries, tokenize policy source = tokens at h hall
    induction hall with
    | nil => cases h
    | cons hgives _ ih =>
        rcases List.mem_cons.1 h with rfl | h
        · exact ⟨_, List.mem_cons_self, hgives⟩
        · obtain ⟨entry, hentry, hgives⟩ := ih h
          exact ⟨entry, List.mem_cons_of_mem _ hentry, hgives⟩
  obtain ⟨a, b, hsegs, ho⟩ := exists_of_mem_located (List.mem_of_mem_filter hentry)
  rw [ho, Nat.zero_add] at hgives
  exact ⟨a, entry.2, b, hsegs, hgives⟩

/-- **Every token comes from a selection** in the source, with text before it and text behind. -/
lemma exists_cut_of_mem {policy : KeywordCase} {source : Text} {t : Token}
    (h : t ∈ tokenize policy source) :
    ∃ before segment rest, source = before ++ (segment.text ++ rest) ∧ Selected segment rest ∧
      Gives policy source before.length segment t := by
  obtain ⟨a, segment, b, hsegs, hgives⟩ := exists_gives_of_mem h
  have hwhole := segmented_segments source
  rw [hsegs] at hwhole
  obtain ⟨before, behind, hsource, hbefore, hbehind⟩ := hwhole.split
  rw [hbefore.flatMap_text] at hgives
  cases hbehind with
  | @cons _ rest _ hne hsel _ =>
      rw [List.append_nil] at hsel
      exact ⟨before, segment, rest, hsource, hsel, hgives⟩

/-- Wherever it stands, a token comes from a selection. -/
lemma exists_selected_of_mem {policy : KeywordCase} {source : Text} {t : Token}
    (h : t ∈ tokenize policy source) :
    ∃ segment rest offset, Selected segment rest ∧ Gives policy source offset segment t := by
  obtain ⟨before, segment, rest, -, hsel, hgives⟩ := exists_cut_of_mem h
  exact ⟨segment, rest, _, hsel, hgives⟩

/-! ## Scanning until halted

A cursor takes one segment after the other.  It is halted by an unclosed string literal alone, and
then nothing is left to be read, so stopping there loses no token. -/

lemma rest_take_first {policy : KeywordCase} {c : Cursor} {x : CodePoint} {s : Text}
    (h : c.rest = x :: s) : (c.take policy (first x s).1).rest = (first x s).2 := by
  rw [Cursor.rest_take, h]
  conv_lhs => rw [← first_append x s]
  exact List.drop_left

/-- A cursor that is halted has nothing left to read. -/
def HaltedAtEnd (c : Cursor) : Prop := c.halted = true → c.rest = []

/-- Taking a segment keeps this, if what is not closed takes all that is left. -/
lemma HaltedAtEnd.take {policy : KeywordCase} {c : Cursor} {segment : Segment} (h : HaltedAtEnd c)
    (hsegment : segment.item = .fault .unclosedString → segment.text = c.rest) :
    HaltedAtEnd (c.take policy segment) := by
  intro hhalted
  rw [Cursor.take, Bool.or_eq_true, beq_iff_eq] at hhalted
  rw [Cursor.rest_take]
  rcases hhalted with hc | hitem
  · rw [h hc, List.drop_nil]
  · rw [hsegment hitem, List.drop_length]

lemma text_first_of_unclosedString {x : CodePoint} {s : Text}
    (hitem : (first x s).1.item = .fault .unclosedString) : (first x s).1.text = x :: s := by
  have happend := first_append x s
  have hsel : Selected (first x s).1 (first x s).2 := selected_iff.2 ⟨x, s, happend, rfl⟩
  obtain ⟨c, hc, -⟩ | ⟨-, hnil⟩ := hsel.of_fault hitem
  · cases hc
  · rwa [hnil, List.append_nil] at happend

lemma HaltedAtEnd.take_first {policy : KeywordCase} {c : Cursor} {x : CodePoint} {s : Text}
    (h : HaltedAtEnd c) (hrest : c.rest = x :: s) :
    HaltedAtEnd (c.take policy (first x s).1) :=
  h.take fun hitem => by rw [hrest, text_first_of_unclosedString hitem]

/-- **Scanning finds the tokens of the segments that are left.** -/
lemma tokens_run (policy : KeywordCase) (c : Cursor) (h : HaltedAtEnd c) :
    (c.run policy).tokens = c.tokens ++ tokensFrom policy c.place (segments c.rest) := by
  fun_induction Cursor.run policy c with
  | case1 c hhalted => rw [h hhalted, segments, tokensFrom, List.append_nil]
  | case2 c _ hrest => rw [hrest, segments, tokensFrom, List.append_nil]
  | case3 c _ x s hrest ih =>
      rw [ih (h.take_first hrest), rest_take_first hrest, hrest, segments, tokensFrom,
        ← List.append_assoc]
      rfl

/-- **Reference lexing.**  A source has exactly one segmentation, and the segments of it that are
not skipped give the tokens of the source, each one token, in order.  Scanning the source with a
cursor until its end or until the cursor is halted finds the same tokens. -/
theorem tokenize_of_segmentation (policy : KeywordCase) (source : Text) :
    (∃! segs : List Segment, Segmented [] source segs) ∧
      (∀ segs, Segmented [] source segs →
        List.Forall₂ (fun entry t => Gives policy source entry.1 entry.2 t) (kept segs)
          (tokenize policy source)) ∧
      ((Cursor.start source).run policy).tokens = tokenize policy source := by
  refine ⟨⟨segments source, segmented_segments source, fun segs h => segmented_iff.1 h⟩,
    fun segs h => forall₂_tokenize policy h, ?_⟩
  rw [tokens_run policy _ (by simp [HaltedAtEnd, Cursor.start])]
  rfl

end SqlFrontEnd.Lexing
