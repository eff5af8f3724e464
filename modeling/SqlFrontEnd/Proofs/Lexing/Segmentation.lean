import Mathlib
import SqlFrontEnd.Proofs.Lexing.Selection

/-!
# Segmentations

`Segmented after s segs` says that the text `s`, which goes on with `after`, is cut into the
segments `segs`, each of them the one that the rules select where it starts.  With nothing after it
this is a segmentation of a whole source, and there is exactly one (`segmented_iff`).

The text that follows is a parameter because the rules look one character ahead.  That makes the
relation compose: two adjacent pieces can be put together (`Segmented.append`) and taken apart
(`Segmented.split`), and what is known of the selections of single segments lifts to whole
segmentations (`Segmented.extend`, `Segmented.restrict`).
-/

namespace SqlFrontEnd.Lexing

/-- A text that goes on with `after` is cut into segments. -/
inductive Segmented (after : Text) : Text → List Segment → Prop
  | nil : Segmented after [] []
  | cons {segment : Segment} {rest : Text} {segs : List Segment} :
      segment.text ≠ [] → Selected segment (rest ++ after) → Segmented after rest segs →
        Segmented after (segment.text ++ rest) (segment :: segs)

namespace Segmented

/-- The segments make up the text. -/
lemma flatMap_text {after s : Text} {segs : List Segment} (h : Segmented after s segs) :
    segs.flatMap (·.text) = s := by
  induction h with
  | nil => rfl
  | cons _ _ _ ih => rw [List.flatMap_cons, ih]

/-- Each of the segments is selected where it stands. -/
lemma exists_selected {after s : Text} {segs : List Segment} (h : Segmented after s segs)
    {segment : Segment} (hmem : segment ∈ segs) : ∃ rest, Selected segment rest := by
  induction h with
  | nil => cases hmem
  | cons _ hsel _ ih =>
      rcases List.mem_cons.1 hmem with rfl | hmem
      · exact ⟨_, hsel⟩
      · exact ih hmem

/-- A single segment. -/
lemma single {after : Text} {segment : Segment} (h : Selected segment after) :
    Segmented after segment.text [segment] := by
  have hcons : Segmented after (segment.text ++ []) [segment] := .cons h.ne_nil h .nil
  rwa [List.append_nil] at hcons

/-- Adjacent pieces are put together. -/
lemma append {after s t : Text} {a b : List Segment} (hs : Segmented (t ++ after) s a)
    (ht : Segmented after t b) : Segmented after (s ++ t) (a ++ b) := by
  induction hs with
  | nil => exact ht
  | cons hne hsel _ ih =>
      rw [List.append_assoc]
      exact .cons hne (by rwa [List.append_assoc]) ih

/-- Pieces are taken apart between any two segments. -/
lemma split {after s : Text} {a b : List Segment} (h : Segmented after s (a ++ b)) :
    ∃ s₁ s₂, s = s₁ ++ s₂ ∧ Segmented (s₂ ++ after) s₁ a ∧ Segmented after s₂ b := by
  induction a generalizing s with
  | nil => exact ⟨[], s, rfl, .nil, h⟩
  | cons segment a ih =>
      cases h with
      | cons hne hsel htail =>
          obtain ⟨s₁, s₂, rfl, h₁, h₂⟩ := ih htail
          refine ⟨segment.text ++ s₁, s₂, (List.append_assoc _ _ _).symm, .cons hne ?_ h₁, h₂⟩
          rwa [← List.append_assoc]

/-- Where a text goes on, more may follow. -/
lemma extend {after s : Text} {segs : List Segment} (h : Segmented after s segs)
    (hafter : after ≠ []) (t : Text) : Segmented (after ++ t) s segs := by
  induction h with
  | nil => exact .nil
  | cons hne hsel _ ih =>
      refine .cons hne ?_ ih
      rw [← List.append_assoc]
      exact hsel.extend (List.append_ne_nil_of_right_ne_nil _ hafter) t

/-- What follows a text may be cut short. -/
lemma restrict {after t s : Text} {segs : List Segment} (h : Segmented (after ++ t) s segs) :
    Segmented after s segs := by
  induction h with
  | nil => exact .nil
  | cons hne hsel _ ih =>
      rw [← List.append_assoc] at hsel
      exact .cons hne hsel.restrict ih

end Segmented

/-! ## The segmentation of a source -/

/-- The segments of a text are a segmentation of it. -/
lemma segmented_segments (s : Text) : Segmented [] s (segments s) := by
  fun_induction segments s with
  | case1 => exact .nil
  | case2 c s ih =>
      have hsel : Selected (first c s).1 ((first c s).2 ++ []) :=
        selected_iff.2 ⟨c, s, by rw [List.append_nil, first_append], by rw [List.append_nil]⟩
      have h := Segmented.cons (first_text_ne_nil c s) hsel ih
      rwa [first_append] at h

/-- **There is exactly one segmentation.** -/
theorem segmented_iff {s : Text} {segs : List Segment} :
    Segmented [] s segs ↔ segs = segments s := by
  constructor
  · intro h
    induction h with
    | nil => rw [segments]
    | cons hne hsel _ ih =>
        rw [List.append_nil] at hsel
        obtain ⟨c, s, htext, hfirst⟩ := selected_iff.1 hsel
        rw [htext, segments, hfirst, ih]
  · rintro rfl
    exact segmented_segments s

/-- Two pieces of a source are cut apart from each other when the first is cut as if the second
were known to follow. -/
lemma segments_append {s t : Text} {segs : List Segment} (h : Segmented t s segs) :
    segments (s ++ t) = segs ++ segments t := by
  rw [← List.append_nil t] at h
  have := h.append (segmented_segments t)
  exact (segmented_iff.1 this).symm

end SqlFrontEnd.Lexing
