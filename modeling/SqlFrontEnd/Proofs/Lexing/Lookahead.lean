import Mathlib
import SqlFrontEnd.Proofs.Lexing.Segmentation

/-!
# What an item sees of the text after it

A rule looks at most one character past its item.  So the text after an item may be exchanged for
another one as long as that one character keeps its role, and a blank can take the place of any of
them.

* `Text.not_isWordPart_of_isBlank` — a blank continues neither a word nor a number, because the
  tables of blanks and of letters, digits and numerals have no code point in common.
* `Selected.of_head` — what follows an item may be exchanged for a text with the same first
  character.
* **`Selected.before_blank`** — a blank ends every item that ends at all, so whatever followed an
  item, a blank may follow instead.  A line comment is the exception: of the blanks, it ends at a
  line feed alone.
* `Segmented.before_blank` — the same for a text that is cut into segments.
* `Selected.not_begins_of_invalid` — a character is invalid only where no other rule begins.
-/

namespace SqlFrontEnd

/-! ## Blanks are of no other class

The blanks are few, so each of them is looked up in the other tables. -/

namespace Text

/-- No blank is a letter, a digit, a numeral or an underscore. -/
lemma isBlank_disjoint {c : Char} (h : isBlank c = true) :
    isLetter c = false ∧ isDigit c = false ∧ isNumeral c = false ∧ c ≠ '_' := by
  have hall : ∀ r ∈ blankRanges, ∀ n ∈ List.range' r.1 (r.2 + 1 - r.1),
      letterRanges.contains n = false ∧ digitRanges.contains n = false ∧
        numeralRanges.contains n = false ∧ n ≠ '_'.toNat := by decide +kernel
  obtain ⟨hletter, hdigit, hnumeral, hunderscore⟩ := RangeTable.forall_of_contains hall h
  refine ⟨hletter, hdigit, hnumeral, ?_⟩
  rintro rfl
  exact hunderscore rfl

end Text

namespace Lexing

/-- A blank differs from every character that is none. -/
lemma ne_of_isBlank {c : CodePoint} (h : c.holds Text.isBlank = true) {d : Char}
    (hd : Text.isBlank d = false) : c ≠ .char d := by
  rintro rfl
  rw [CodePoint.holds_char, hd] at h
  cases h

lemma not_isWordPart_of_isBlank {c : CodePoint} (h : c.holds Text.isBlank = true) :
    isWordPart c = false := by
  cases c with
  | char c =>
      obtain ⟨hletter, hdigit, hnumeral, hunderscore⟩ := Text.isBlank_disjoint h
      simp [isWordPart, hletter, hdigit, hnumeral, hunderscore]
  | surrogate half => rfl

lemma not_isNumberPart_of_isBlank {c : CodePoint} (h : c.holds Text.isBlank = true) :
    isNumberPart c = false := by
  cases c with
  | char c =>
      obtain ⟨-, hdigit, -, -⟩ := Text.isBlank_disjoint h
      have hpoint : c ≠ '.' := by
        rintro rfl
        exact absurd h (by decide)
      simp [isNumberPart, hdigit, hpoint]
  | surrogate half => rfl

lemma not_isBlank_of_isWordPart {c : CodePoint} (h : isWordPart c = true) :
    c.holds Text.isBlank = false := by
  by_contra hblank
  rw [Bool.not_eq_false] at hblank
  rw [not_isWordPart_of_isBlank hblank] at h
  cases h

lemma not_isBlank_of_isNumberPart {c : CodePoint} (h : isNumberPart c = true) :
    c.holds Text.isBlank = false := by
  by_contra hblank
  rw [Bool.not_eq_false] at hblank
  rw [not_isNumberPart_of_isBlank hblank] at h
  cases h

/-! ## The character after an item -/

/-- What follows an item may be exchanged for a text with the same first character. -/
lemma Selected.of_head {segment : Segment} {d : CodePoint} {rest : Text}
    (h : Selected segment (d :: rest)) (t : Text) : Selected segment (d :: t) := by
  have halone : Selected segment [d] := Selected.restrict (t := rest) h
  exact halone.extend (List.cons_ne_nil d []) t

/-- An item that extends to the end of the text because its closing mark is missing. -/
def Item.isUnclosed : Item → Bool
  | .fault .unclosedComment | .fault .unclosedString => true
  | _ => false

/-- An item that a blank ends.  What is not closed has no end, and of the blanks only a line feed
ends a line comment. -/
structure Item.EndsAt (item : Item) (c : CodePoint) : Prop where
  closed : item.isUnclosed = false
  newline : item = .lineComment → c = .char '\n'

/-- No rule begins because of a blank behind the item. -/
lemma Rule.begins_of_isBlank {rule : Rule} {text : Text} {c : CodePoint} {t : Text}
    (hc : c.holds Text.isBlank = true) (hne : text ≠ []) (rest : Text)
    (h : rule.begins (text ++ c :: t) = true) : rule.begins (text ++ rest) = true := by
  -- where the item has two characters, these decide; only behind a single one is the blank seen
  match text, hne with
  | [d], _ =>
      have hdash := ne_of_isBlank hc (d := '-') (by decide)
      have hequal := ne_of_isBlank hc (d := '=') (by decide)
      have hgreater := ne_of_isBlank hc (d := '>') (by decide)
      cases rule with
      | lineComment => simp [Rule.begins, hdash] at h
      | twoCharacters =>
          simp [Rule.begins, twoCharacterOperators, hequal, hgreater] at h
      | blank | blockComment | word | number | string | oneCharacter | unknown => exact h
  | d :: e :: s, _ =>
      have hlength : 2 ≤ (d :: e :: s).length := by simp
      rw [Rule.begins_append_of_length _ hlength] at h ⊢
      exact h

lemma LongestRun.before {p : CodePoint → Prop} {run rest : Text} (h : LongestRun p run rest)
    {c : CodePoint} (hc : ¬ p c) (t : Text) : LongestRun p run (c :: t) := by
  refine ⟨h.1, fun d hd => ?_⟩
  obtain rfl : c = d := by simpa using hd
  exact hc

lemma Rule.Takes.before_blank {rule : Rule} {segment : Segment} {rest : Text} {c : CodePoint}
    (h : rule.Takes segment rest) (hc : c.holds Text.isBlank = true)
    (hends : segment.item.EndsAt c) (t : Text) : rule.Takes segment (c :: t) := by
  cases rule with
  | lineComment =>
      obtain ⟨hitem, body, ht, hbody⟩ := h
      exact ⟨hitem, body, ht, hbody.before (by simp [hends.newline hitem]) t⟩
  | blockComment =>
      obtain ⟨body, hb, hclosed | ⟨rfl, -⟩⟩ := h
      · exact ⟨body, hb, .inl hclosed⟩
      · cases hends.closed
  | word =>
      obtain ⟨hitem, d, run, ht, hd, hrun⟩ := h
      exact ⟨hitem, d, run, ht, hd, hrun.before (by simp [not_isWordPart_of_isBlank hc]) t⟩
  | number =>
      obtain ⟨hitem, d, run, ht, hd, hrun⟩ := h
      exact ⟨hitem, d, run, ht, hd, hrun.before (by simp [not_isNumberPart_of_isBlank hc]) t⟩
  | string =>
      obtain ⟨content, ⟨hclosed, -⟩ | ⟨rfl, -⟩⟩ := h
      · have hquote := ne_of_isBlank hc (d := '\'') (by decide)
        exact ⟨content, .inl ⟨hclosed, by simpa using hquote⟩⟩
      · cases hends.closed
  | blank | twoCharacters | oneCharacter | unknown => exact h

/-- **A blank ends an item.**  Whatever followed the item before, a blank may follow instead. -/
lemma Selected.before_blank {segment : Segment} {rest : Text} {c : CodePoint}
    (h : Selected segment rest) (hc : c.holds Text.isBlank = true)
    (hends : segment.item.EndsAt c) (t : Text) : Selected segment (c :: t) := by
  have hne := h.ne_nil
  obtain ⟨rule, hrule, htakes⟩ := h
  have htakes' := htakes.before_blank hc hends t
  refine ⟨rule, Rule.inCharge?_of_imp hrule (fun r hr => ?_) htakes'.begins, htakes'⟩
  exact Rule.begins_of_isBlank hc hne rest hr

/-- A text that ends is cut in the same way where a blank follows. -/
lemma Segmented.before_blank {s : Text} {segs : List Segment} (h : Segmented [] s segs)
    {c : CodePoint} (hc : c.holds Text.isBlank = true)
    (hends : ∀ segment ∈ segs, segment.item.EndsAt c) (t : Text) :
    Segmented (c :: t) s segs := by
  induction h with
  | nil => exact .nil
  | @cons segment rest segs hne hsel _ ih =>
      refine .cons hne ?_ (ih fun later hlater => hends later (List.mem_cons_of_mem _ hlater))
      -- the blank is seen by the last segment only, the others see the segment after them
      cases rest with
      | nil => exact hsel.before_blank hc (hends segment List.mem_cons_self) t
      | cons d rest => exact hsel.of_head _

/-- A blank is an item of its own, whatever follows it. -/
lemma selected_blank {c : CodePoint} (h : c.holds Text.isBlank = true) (rest : Text) :
    Selected ⟨.blank, [c]⟩ rest := by
  refine ⟨.blank, ?_, rfl, c, h, rfl⟩
  simp [Rule.inCharge?, Rule.priority, Rule.begins, h]

lemma segmented_blank {c : CodePoint} (h : c.holds Text.isBlank = true) (after : Text) :
    Segmented after [c] [⟨.blank, [c]⟩] := .single (selected_blank h after)

/-! ## Where no rule begins -/

/-- Where a rule is in charge, none that comes before it begins. -/
lemma Rule.not_begins_of_inCharge? {text : Text} {rule : Rule} (h : inCharge? text = some rule) :
    ∀ r ∈ priority.takeWhile (· != rule), r.begins text = false := by
  obtain ⟨-, before, after, hsplit, hbefore⟩ := List.find?_eq_some_iff_append.1 h
  intro r hr
  have hmem : r ∈ before := by
    rw [hsplit, List.takeWhile_append] at hr
    split at hr
    · simpa using hr
    · exact List.takeWhile_subset _ hr
  simpa using hbefore r hmem

/-- **A character is invalid only where no other rule begins.** -/
lemma Selected.not_begins_of_invalid {segment : Segment} {rest : Text} {c : CodePoint}
    (h : Selected segment rest) (hitem : segment.item = .fault (.invalidCharacter c)) (rule : Rule)
    (hrule : rule ≠ .unknown) : rule.begins (segment.text ++ rest) = false := by
  obtain ⟨chosen, hchosen, htakes⟩ := h
  have hunknown : chosen = .unknown := by
    cases chosen with
    | blank | lineComment | word | number => exact absurd (htakes.1.symm.trans hitem) (by simp)
    | blockComment => obtain ⟨_, -, rfl | ⟨rfl, -⟩⟩ := htakes <;> cases hitem
    | string => obtain ⟨_, ⟨rfl, -⟩ | ⟨rfl, -⟩⟩ := htakes <;> cases hitem
    | twoCharacters => obtain ⟨_, _, _, -, rfl⟩ := htakes; cases hitem
    | oneCharacter =>
        obtain ⟨a, item, hmem, rfl⟩ := htakes
        obtain rfl : item = .fault (.invalidCharacter c) := hitem
        simp [oneCharacterItems] at hmem
    | unknown => rfl
  subst hunknown
  refine Rule.not_begins_of_inCharge? hchosen rule ?_
  cases rule with
  | unknown => exact absurd rfl hrule
  | blank | lineComment | blockComment | word | number | string | twoCharacters | oneCharacter =>
      decide

end Lexing

end SqlFrontEnd
