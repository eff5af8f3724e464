import Mathlib
import SqlFrontEnd.Lexing.Segment

/-!
# Places and offsets

A place is carried along while a source is read, one character after the other.  Here it is counted
instead: the line from the line feeds before an offset, the column from the distance to the last of
them.  The two agree (`start_after`), so a place says where in a source it is, and the offset can
be found by walking lines and columns (`offset?_after`).

* `lineStart` — the offset after the last line feed of a text.
* `placeAt` — the place of an offset, by counting.
* `offset?` — the offset of a place, by walking.
* `after_precedes` — places grow as a source is read, line first.
-/

namespace SqlFrontEnd

namespace Place

/-- The offset after the last line feed of a text, or zero if it has none. -/
def lineStart (text : Text) : ℕ := text.length - text.reverse.idxOf (.char '\n')

/-- The place of an offset of a source. -/
def placeAt (source : Text) (offset : ℕ) : Place :=
  ⟨1 + (source.take offset).count (.char '\n'), 1 + (offset - lineStart (source.take offset))⟩

/-- Walks past a number of line feeds; a text with fewer of them has no such line. -/
def pastLines : ℕ → Text → Option ℕ
  | 0, _ => some 0
  | _ + 1, [] => none
  | n + 1, c :: s => (if c = '\n' then pastLines n s else pastLines (n + 1) s).map (· + 1)

/-- The offset of a line and a column: past all lines before, and as many characters further. -/
def offset? (source : Text) (line column : ℤ) : Option ℕ :=
  if 1 ≤ line ∧ 1 ≤ column then
    (pastLines (line - 1).toNat source).map (· + (column - 1).toNat)
  else none

/-! ## Counting -/

lemma lineStart_le_length (text : Text) : lineStart text ≤ text.length := Nat.sub_le _ _

lemma lineStart_of_not_mem {s : Text} (h : .char '\n' ∉ s) : lineStart s = 0 := by
  have hnone : s.reverse.idxOf (.char '\n') = s.reverse.length :=
    List.idxOf_eq_length (by simpa using h)
  rw [lineStart, hnone, List.length_reverse, Nat.sub_self]

lemma lineStart_cons (c : CodePoint) (s : Text) :
    lineStart (c :: s) = if c = '\n' ∨ .char '\n' ∈ s then lineStart s + 1 else 0 := by
  have hle : s.reverse.idxOf (.char '\n') ≤ s.length := by
    simpa using List.idxOf_le_length (l := s.reverse) (a := .char '\n')
  split
  · next h =>
    by_cases hs : .char '\n' ∈ s
    · simp only [lineStart, List.reverse_cons, List.length_cons, List.idxOf_append,
        List.mem_reverse, hs, if_true]
      omega
    · obtain rfl := h.resolve_right hs
      rw [lineStart_of_not_mem hs]
      simp [lineStart, List.idxOf_append, hs]
  · next h =>
    push Not at h
    exact lineStart_of_not_mem (by simpa [eq_comm] using h)

/-- The place after a text: its line feeds are counted, and the characters after the last one. -/
lemma after_eq (p : Place) (s : Text) :
    p.after s = ⟨p.line + s.count (.char '\n'),
      if .char '\n' ∈ s then 1 + (s.length - lineStart s) else p.column + s.length⟩ := by
  induction s generalizing p with
  | nil => simp
  | cons c s ih =>
      rw [after_cons, ih, next, lineStart_cons]
      by_cases hc : c = .char '\n'
      · subst hc
        by_cases hs : .char '\n' ∈ s
        · simp [hs]; omega
        · simp [hs, lineStart_of_not_mem hs]; omega
      · by_cases hs : .char '\n' ∈ s
        · simp [hc, hs, Ne.symm hc]
        · simp [hc, hs, Ne.symm hc]; omega

/-- **Carried along or counted**, a place is the same. -/
lemma start_after (s : Text) : start.after s = placeAt s s.length := by
  rw [after_eq, placeAt, List.take_length, start]
  split
  · rfl
  · next h => rw [lineStart_of_not_mem h, Nat.sub_zero]

/-- The place of an offset depends on what is before it alone. -/
lemma placeAt_append (s t : Text) : placeAt (s ++ t) s.length = start.after s := by
  rw [start_after, placeAt, placeAt, List.take_left, List.take_length]

lemma placeAt_eq {source : Text} {offset : ℕ} (h : offset ≤ source.length) :
    placeAt source offset = start.after (source.take offset) := by
  have := placeAt_append (source.take offset) (source.drop offset)
  rwa [List.take_append_drop, List.length_take, Nat.min_eq_left h] at this

/-- Places grow as a source is read, line first. -/
lemma after_precedes (p : Place) {s : Text} (h : s ≠ []) :
    p.line < (p.after s).line ∨ p.line = (p.after s).line ∧ p.column < (p.after s).column := by
  have hpos := List.length_pos_iff.2 h
  rw [after_eq]
  by_cases hs : .char '\n' ∈ s
  · have := List.count_pos_iff.2 hs
    left
    show p.line < p.line + _
    omega
  · right
    rw [List.count_eq_zero.2 hs, if_neg hs]
    exact ⟨rfl, Nat.lt_add_of_pos_right hpos⟩

/-! ## Walking -/

/-- Past as many line feeds as a text has, its last line begins. -/
lemma pastLines_count (s t : Text) :
    pastLines (s.count (.char '\n')) (s ++ t) = some (lineStart s) := by
  induction s with
  | nil => cases t <;> rfl
  | cons c s ih =>
      rw [lineStart_cons]
      by_cases hc : c = .char '\n'
      · subst hc
        simp [pastLines, ih]
      · rw [List.count_cons_of_ne hc, List.cons_append]
        by_cases hs : .char '\n' ∈ s
        · obtain ⟨n, hn⟩ := Nat.exists_eq_succ_of_ne_zero (List.count_pos_iff.2 hs).ne'
          rw [hn] at ih ⊢
          simp [pastLines, hc, hs, ih]
        · rw [List.count_eq_zero.2 hs]
          simp [pastLines, hc, hs]

/-- **Walking finds the offset of a place.** -/
lemma offset?_after (s t : Text) :
    offset? (s ++ t) (start.after s).line (start.after s).column = some s.length := by
  have hle := lineStart_le_length s
  rw [start_after, placeAt, List.take_length, offset?,
    if_pos (by constructor <;> push_cast <;> omega)]
  have hline : ((1 + s.count (.char '\n') : ℕ) - 1 : ℤ).toNat = s.count (.char '\n') := by omega
  have hcolumn : ((1 + (s.length - lineStart s) : ℕ) - 1 : ℤ).toNat = s.length - lineStart s := by
    omega
  rw [hline, hcolumn, pastLines_count, Option.map_some, Nat.add_sub_cancel' hle]

end Place

/-! ## The place of a token -/

/-- The token of a segment tells the place at which it is read and, unless it reports a fault, the
text of the segment. -/
lemma Lexing.place_of_mem_token? {policy : KeywordCase} {segment : Lexing.Segment} {p : Place}
    {t : Token} (h : t ∈ segment.token? policy p) :
    t.line = p.line ∧ t.column = p.column ∧ (t.isError = false → t.lexeme = segment.text) := by
  obtain ⟨item, text⟩ := segment
  cases item <;> simp [Lexing.Segment.token?] at h <;> subst h <;> simp [Token.isError]

end SqlFrontEnd
