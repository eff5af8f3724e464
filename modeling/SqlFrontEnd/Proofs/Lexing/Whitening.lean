import Mathlib
import SqlFrontEnd.Proofs.Lexing.Fault

/-!
# Blanks in place of segments

Some segments of a source are written over with blanks, one for each character, so that nothing
moves.  This file shows that the other segments are found again, each where it was, and so are their
tokens.  Only the character behind a segment could make a difference, and there a blank does as well
as anything else.

* `blankOut` — a text written over with spaces; the line feeds in it stay.
* `whiten` — the segments of a source in which those of some kind are written over.
* **`Segmented.whiten`** — these are indeed the segments of the source that they make up.
* **`tokensFrom_whiten`** — its tokens are those of the segments that were left as they are.
-/

namespace SqlFrontEnd.Lexing

open Place

/-- A text written over with spaces.  The line feeds stay, so that lines and columns do. -/
def blankOut (s : Text) : Text := s.map fun c : CodePoint => if c = '\n' then c else .char ' '

def blanks (s : Text) : List Segment := s.map fun c => ⟨.blank, [c]⟩

/-- What stands in place of a segment: blanks where it is written over, and else itself. -/
def Segment.whitened (p : Segment → Bool) (segment : Segment) : List Segment :=
  if p segment then blanks (blankOut segment.text) else [segment]

/-- Segments some of which are written over. -/
def whiten (p : Segment → Bool) (segs : List Segment) : List Segment :=
  segs.flatMap (Segment.whitened p)

/-! ## Blanks -/

lemma isBlank_of_mem_blankOut {s : Text} : ∀ c ∈ blankOut s, c.holds Text.isBlank = true := by
  intro c hc
  obtain ⟨d, -, rfl⟩ := List.mem_map.1 hc
  split
  · next hd =>
    subst hd
    decide
  · decide

/-- Writing over moves nothing. -/
lemma after_blankOut (p : Place) (s : Text) : p.after (blankOut s) = p.after s := by
  induction s generalizing p with
  | nil => rfl
  | cons c s ih =>
      have hnext : p.next (if c = '\n' then c else .char ' ') = p.next c := by
        split
        · rfl
        · next hc => simp [next, hc]
      rw [blankOut, List.map_cons, after_cons, after_cons, hnext]
      exact ih _

lemma flatMap_blanks (s : Text) : (blanks s).flatMap (·.text) = s := by
  induction s with
  | nil => rfl
  | cons c s ih =>
      rw [blanks, List.map_cons, List.flatMap_cons]
      exact congrArg (c :: ·) ih

lemma segmented_blanks {s : Text} (h : ∀ c ∈ s, c.holds Text.isBlank = true) (after : Text) :
    Segmented after s (blanks s) := by
  induction s with
  | nil => exact .nil
  | cons c s ih =>
      have hhead := segmented_blank (h c List.mem_cons_self) (s ++ after)
      exact Segmented.append hhead (ih fun d hd => h d (List.mem_cons_of_mem c hd))

lemma tokensFrom_blanks (policy : KeywordCase) (p : Place) (s : Text) :
    tokensFrom policy p (blanks s) = [] := by
  induction s generalizing p with
  | nil => rfl
  | cons c s ih => exact ih _

/-! ## The segments -/

/-- An item before any character but a line feed is one that every blank ends. -/
lemma Selected.endsAt {segment : Segment} {d : CodePoint} {rest : Text}
    (h : Selected segment (d :: rest)) (hd : d ≠ .char '\n') (c : CodePoint) :
    segment.item.EndsAt c := by
  have hfits := h.fits
  constructor
  · cases hitem : segment.item with
    | fault diagnostic =>
        obtain ⟨x, rfl, -⟩ | ⟨-, hnil⟩ := h.of_fault hitem
        · rfl
        · cases hnil
    | blank | lineComment | blockComment | word | number | string | operator | delimiter => rfl
  · intro hitem
    rw [hitem] at hfits
    obtain ⟨body, -, -, hbody⟩ := hfits
    exact absurd hd (hbody d rfl)

variable {p : Segment → Bool}

lemma whiten_cons (segment : Segment) (segs : List Segment) :
    whiten p (segment :: segs) = segment.whitened p ++ whiten p segs := rfl

/-- What is written over: the texts of some segments, each in its place. -/
lemma flatMap_text_whiten (segs : List Segment) :
    (whiten p segs).flatMap (·.text) =
      segs.flatMap fun segment => if p segment then blankOut segment.text else segment.text := by
  induction segs with
  | nil => rfl
  | cons segment segs ih =>
      rw [whiten_cons, List.flatMap_append, ih, List.flatMap_cons, Segment.whitened]
      split
      · rw [flatMap_blanks]
      · rw [List.flatMap_singleton]

/-- A segment that is left as it is is selected as before, since the character behind it stays or
becomes a blank. -/
lemma Selected.before_whiten {segment : Segment} {rest : Text} {segs : List Segment}
    (hp : ∀ follower ∈ segs, p follower = true → follower.text.head? ≠ some (.char '\n'))
    (hsel : Selected segment rest) (hrest : Segmented [] rest segs) :
    Selected segment ((whiten p segs).flatMap (·.text)) := by
  cases hrest with
  | nil => exact hsel
  | @cons follower more others hne =>
      obtain ⟨d, u, htext⟩ := List.exists_cons_of_ne_nil hne
      rw [htext, List.cons_append] at hsel
      rw [whiten_cons, List.flatMap_append, Segment.whitened]
      split
      · next hwhite =>
        have hd : d ≠ .char '\n' := by
          rintro rfl
          exact hp follower List.mem_cons_self hwhite (by rw [htext]; rfl)
        have hout : blankOut follower.text = .char ' ' :: blankOut u := by
          rw [htext, blankOut, List.map_cons, if_neg hd]
          rfl
        rw [flatMap_blanks, hout]
        exact hsel.before_blank (by decide) (hsel.endsAt hd _) _
      · rw [List.flatMap_singleton, htext]
        exact hsel.of_head _

/-- **What is left is found again.**  Segments may be written over with blanks, except those that
begin with a line feed, since a line feed may be what ends the comment before it. -/
lemma Segmented.whiten {s : Text} {segs : List Segment} (h : Segmented [] s segs)
    (hp : ∀ segment ∈ segs, p segment = true → segment.text.head? ≠ some (.char '\n')) :
    Segmented [] ((Lexing.whiten p segs).flatMap (·.text)) (Lexing.whiten p segs) := by
  induction h with
  | nil => exact .nil
  | @cons segment rest segs hne hsel hrest ih =>
      have hp' : ∀ follower ∈ segs, p follower = true → follower.text.head? ≠ some (.char '\n') :=
        fun follower hmem => hp follower (List.mem_cons_of_mem _ hmem)
      rw [List.append_nil] at hsel
      rw [whiten_cons, List.flatMap_append]
      refine Segmented.append ?_ (ih hp')
      rw [List.append_nil, Segment.whitened]
      split
      · rw [flatMap_blanks]
        exact segmented_blanks isBlank_of_mem_blankOut _
      · rw [List.flatMap_singleton]
        exact .single (hsel.before_whiten hp' hrest)

/-- The segments of a source in which some are written over. -/
lemma segments_whiten {source : Text}
    (hp : ∀ segment rest, Selected segment rest → p segment = true →
      segment.text.head? ≠ some (.char '\n')) :
    segments ((whiten p (segments source)).flatMap (·.text)) = whiten p (segments source) := by
  have hsegs := segmented_segments source
  have hwhite := hsegs.whiten (p := p) (by
    intro segment hmem
    obtain ⟨rest, hsel⟩ := hsegs.exists_selected hmem
    exact hp segment rest hsel)
  exact (segmented_iff.1 hwhite).symm

/-! ## The tokens -/

/-- **Nothing moves.**  A source in which segments are written over keeps exactly the tokens of the
others. -/
lemma tokensFrom_whiten {policy : KeywordCase} {keep : Token → Bool}
    (hkeep : ∀ {q : Place} {segment : Segment} {t : Token},
      segment.token? policy q = some t → keep t = !p segment)
    (q : Place) (segs : List Segment) :
    tokensFrom policy q (whiten p segs) = (tokensFrom policy q segs).filter keep := by
  induction segs generalizing q with
  | nil => rfl
  | cons segment segs ih =>
      rw [whiten_cons, tokensFrom_append, ih, tokensFrom, List.filter_append, Segment.whitened]
      split
      · next hwhite =>
        rw [tokensFrom_blanks, flatMap_blanks, after_blankOut]
        cases htoken : segment.token? policy q with
        | none => rfl
        | some t => simp [hkeep htoken, hwhite]
      · next hleft =>
        rw [List.flatMap_singleton]
        cases htoken : segment.token? policy q with
        | none => simp [tokensFrom, htoken]
        | some t => simp [tokensFrom, htoken, hkeep htoken, hleft]

end SqlFrontEnd.Lexing
