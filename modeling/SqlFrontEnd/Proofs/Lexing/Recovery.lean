import Mathlib
import SqlFrontEnd.Proofs.Lexing.Whitening

/-!
# Recovery from invalid characters

An invalid character is reported and passed over, and reading goes on behind it.  The report is all
that comes of it: had a space stood there, every other token would be the same, at the same place.
For the character is a segment by itself, and no other segment depends on which character follows
it, as long as it does not go on.

* `reportedOffsets` — where the tokens of a source say that a character is invalid.
* `blankAt` — a source with spaces at given offsets.
* `blankAt_reportedOffsets` — to put spaces there is to write over the invalid segments.
* **`tokenize_blankAt_reportedOffsets`** — then the reports are gone and nothing else has changed.
-/

namespace SqlFrontEnd

open Place Lexing

/-- The offsets of the characters that the tokens of a source report as invalid. -/
def reportedOffsets (policy : KeywordCase) (source : Text) : List ℕ :=
  ((tokenize policy source).filter Token.isInvalid).filterMap fun t =>
    offset? source t.line t.column

/-- A source with spaces at some offsets. -/
def blankAt (offsets : List ℕ) (source : Text) : Text :=
  source.mapIdx fun i c => if i ∈ offsets then .char ' ' else c

namespace Lexing

/-! ## Where the invalid characters are -/

/-- The offsets of the invalid segments, the first segment being at a given offset. -/
def invalidOffsets : ℕ → List Segment → List ℕ
  | _, [] => []
  | offset, segment :: segs =>
    if segment.item.isInvalid then offset :: invalidOffsets (offset + segment.text.length) segs
    else invalidOffsets (offset + segment.text.length) segs

lemma le_of_mem_invalidOffsets {offset i : ℕ} {segs : List Segment}
    (h : i ∈ invalidOffsets offset segs) : offset ≤ i := by
  induction segs generalizing offset with
  | nil => cases h
  | cons segment segs ih =>
      rw [invalidOffsets] at h
      split at h
      · rcases List.mem_cons.1 h with rfl | h
        · exact le_rfl
        · exact (Nat.le_add_right _ _).trans (ih h)
      · exact (Nat.le_add_right _ _).trans (ih h)

lemma mem_invalidOffsets_behind {segment : Segment} (hne : segment.text ≠ [])
    {segs : List Segment} {offset i : ℕ} (h : offset + segment.text.length ≤ i) :
    i ∈ invalidOffsets offset (segment :: segs) ↔
      i ∈ invalidOffsets (offset + segment.text.length) segs := by
  have hpos := List.length_pos_iff.2 hne
  rw [invalidOffsets]
  split
  · rw [List.mem_cons]
    exact or_iff_right (by omega)
  · exact Iff.rfl

lemma not_mem_invalidOffsets {segment : Segment} (hvalid : segment.item.isInvalid = false)
    {segs : List Segment} {offset i : ℕ} (h : i < offset + segment.text.length) :
    i ∉ invalidOffsets offset (segment :: segs) := by
  intro hmem
  rw [invalidOffsets, if_neg (by simp [hvalid])] at hmem
  have := le_of_mem_invalidOffsets hmem
  omega

/-- **The reports lead to the invalid segments.** -/
lemma offsets_of_reports (policy : KeywordCase) (before : Text) (segs : List Segment) :
    ((tokensFrom policy (start.after before) segs).filter Token.isInvalid).filterMap
        (fun t => offset? (before ++ segs.flatMap (·.text)) t.line t.column) =
      invalidOffsets before.length segs := by
  induction segs generalizing before with
  | nil => rfl
  | cons segment segs ih =>
      have htail := ih (before ++ segment.text)
      rw [List.length_append, after_append, List.append_assoc] at htail
      rw [tokensFrom, invalidOffsets, List.filter_append, List.filterMap_append,
        List.flatMap_cons, htail]
      cases htoken : segment.token? policy (start.after before) with
      | none =>
          have hnofault := isFault_of_isSkipped (token?_eq_none_iff.1 htoken)
          simp [(Item.valid_of_not_isFault hnofault).1]
      | some t =>
          have hinvalid := isInvalid_of_token? htoken
          obtain ⟨hline, hcolumn, -⟩ := place_of_mem_token? htoken
          -- the place was carried along the text before, and walking there leads back
          have hoffset := offset?_after before (segment.text ++ segs.flatMap (·.text))
          rw [← hline, ← hcolumn] at hoffset
          by_cases h : segment.item.isInvalid = true
          · simp [h, hinvalid, hoffset]
          · simp [h, hinvalid]

/-! ## Spaces in their place -/

/-- A piece of a source that begins at a given offset, with spaces at some offsets. -/
def blankFrom (offset : ℕ) (offsets : List ℕ) (s : Text) : Text :=
  s.mapIdx fun i c => if offset + i ∈ offsets then .char ' ' else c

lemma blankFrom_append (offset : ℕ) (offsets : List ℕ) (s t : Text) :
    blankFrom offset offsets (s ++ t) =
      blankFrom offset offsets s ++ blankFrom (offset + s.length) offsets t := by
  simp only [blankFrom, List.mapIdx_append, Nat.add_assoc, Nat.add_comm s.length]

lemma blankFrom_congr {offset : ℕ} {offsets offsets' : List ℕ} {s : Text}
    (h : ∀ i, offset ≤ i → i < offset + s.length → (i ∈ offsets ↔ i ∈ offsets')) :
    blankFrom offset offsets s = blankFrom offset offsets' s := by
  refine List.ext_getElem (by simp [blankFrom]) ?_
  intro i hi _
  rw [blankFrom, List.length_mapIdx] at hi
  simp only [blankFrom, List.getElem_mapIdx, h (offset + i) (by omega) (by omega)]

lemma blankFrom_nil (offset : ℕ) (s : Text) : blankFrom offset [] s = s := by
  refine List.ext_getElem (by simp [blankFrom]) ?_
  intro i _ _
  simp [blankFrom]

/-- An invalid segment is one character, and no line feed. -/
lemma Selected.eq_of_invalid {segment : Segment} {rest : Text} (h : Selected segment rest)
    (hinvalid : segment.item.isInvalid = true) :
    ∃ c, segment.text = [c] ∧ c ≠ .char '\n' := by
  obtain ⟨c, hitem⟩ := Item.isInvalid_iff.1 hinvalid
  have hfits := h.fits
  rw [hitem] at hfits
  have htext : segment.text = [c] := hfits
  refine ⟨c, htext, ?_⟩
  rintro rfl
  have hbegins := h.not_begins_of_invalid hitem .blank (by simp)
  rw [htext] at hbegins
  cases hbegins

/-- To put spaces at the offsets of the invalid segments is to write these over. -/
lemma blankFrom_invalidOffsets {s : Text} {segs : List Segment} (h : Segmented [] s segs)
    (offset : ℕ) :
    blankFrom offset (invalidOffsets offset segs) s =
      (whiten (fun segment => segment.item.isInvalid) segs).flatMap (·.text) := by
  induction h generalizing offset with
  | nil => rfl
  | @cons segment rest segs hne hsel _ ih =>
      have hrest : blankFrom (offset + segment.text.length)
          (invalidOffsets offset (segment :: segs)) rest =
            (whiten (fun segment => segment.item.isInvalid) segs).flatMap (·.text) := by
        rw [← ih]
        exact blankFrom_congr fun i hi _ => mem_invalidOffsets_behind hne hi
      rw [blankFrom_append, hrest, whiten_cons, List.flatMap_append, Segment.whitened]
      congr 1
      split
      · next hinvalid =>
        obtain ⟨c, htext, hc⟩ := hsel.eq_of_invalid hinvalid
        rw [flatMap_blanks, htext]
        simp [blankFrom, invalidOffsets, hinvalid, blankOut, hc]
      · next hvalid =>
        have hnone : blankFrom offset (invalidOffsets offset (segment :: segs)) segment.text =
            blankFrom offset [] segment.text := by
          refine blankFrom_congr fun i _ hi => ?_
          simp [not_mem_invalidOffsets (by simpa using hvalid) hi]
        rw [List.flatMap_singleton, hnone, blankFrom_nil]

end Lexing

/-- **To put spaces where a character is reported** is to write over the invalid segments. -/
lemma blankAt_reportedOffsets (policy : KeywordCase) (source : Text) :
    blankAt (reportedOffsets policy source) source =
      (whiten (fun segment => segment.item.isInvalid) (segments source)).flatMap (·.text) := by
  have hreports := offsets_of_reports policy [] (segments source)
  rw [List.nil_append, segments_flatten] at hreports
  have hoffsets : reportedOffsets policy source = invalidOffsets 0 (segments source) := hreports
  have hblank := blankFrom_invalidOffsets (segmented_segments source) 0
  rw [hoffsets, ← hblank, blankAt, blankFrom]
  simp only [Nat.zero_add]

/-- The segments that are left are cut as before. -/
lemma segments_blankAt_reportedOffsets (policy : KeywordCase) (source : Text) :
    segments (blankAt (reportedOffsets policy source) source) =
      whiten (fun segment => segment.item.isInvalid) (segments source) := by
  rw [blankAt_reportedOffsets]
  refine segments_whiten fun segment rest hsel hinvalid => ?_
  obtain ⟨c, htext, hc⟩ := hsel.eq_of_invalid hinvalid
  simpa [htext] using hc

/-- **Recovery is local.**  With a space in the place of every character that is reported as
invalid, a source has exactly its other tokens, each as it was and where it was, and no character of
it is reported any more. -/
theorem tokenize_blankAt_reportedOffsets (policy : KeywordCase) (source : Text) :
    tokenize policy (blankAt (reportedOffsets policy source) source) =
        (tokenize policy source).filter (fun t => !t.isInvalid) ∧
      ∀ t ∈ tokenize policy (blankAt (reportedOffsets policy source) source),
        t.isInvalid = false := by
  have htokens : tokenize policy (blankAt (reportedOffsets policy source) source) =
      (tokenize policy source).filter fun t => !t.isInvalid := by
    rw [tokenize, segments_blankAt_reportedOffsets]
    exact tokensFrom_whiten (fun h => by rw [isInvalid_of_token? h]) _ _
  refine ⟨htokens, fun t ht => ?_⟩
  rw [htokens] at ht
  simpa using (List.mem_filter.1 ht).2

/-- Two dashes do not become a comment when the character between them is taken out. -/
example : blankAt (reportedOffsets .sensitive [.char '-', .char '!', .char '-'])
    [.char '-', .char '!', .char '-'] = [.char '-', .char ' ', .char '-'] := by decide +kernel

end SqlFrontEnd
