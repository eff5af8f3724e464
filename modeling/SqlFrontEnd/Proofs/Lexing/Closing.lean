import Mathlib
import SqlFrontEnd.Lexing.Rules

/-!
# Closing marks

A block comment ends at the next `#`, and a string literal at the first quote that is not part of a
doubled quote.  The two searches, `throughMark` and `throughQuote`, are characterised here by the
shape of what they find.

For a literal that shape is a content with every quote written twice.  `doubled` writes a content
so, and `quote` puts it between two quotes.  A content can be read back (`doubled_injective`), a
closing quote is never followed by another one (`throughQuote_eq_some_iff`), and a text in which
no literal ends is itself a content with its quotes doubled (`throughQuote_eq_none_iff`).
-/

namespace SqlFrontEnd.Lexing

/-! ## The mark of a comment -/

/-- A text without the mark leads to the first one. -/
lemma throughMark_append_mark {body : Text} (h : .char '#' ∉ body) (rest : Text) :
    throughMark (body ++ .char '#' :: rest) = some ⟨body ++ [.char '#'], rest⟩ := by
  induction body with
  | nil => simp [throughMark]
  | cons c body ih =>
      simp only [List.mem_cons, not_or] at h
      rw [List.cons_append, throughMark, if_neg (Ne.symm h.1), ih h.2]
      rfl

/-- What is taken through the first mark has no mark before its last character. -/
lemma throughMark_eq_some_iff {s : Text} {cut : Cut} :
    throughMark s = some cut ↔
      ∃ body, .char '#' ∉ body ∧ cut.text = body ++ [.char '#'] ∧ s = cut.text ++ cut.rest := by
  constructor
  · intro h
    have hs := throughMark_append h
    suffices ∃ body, .char '#' ∉ body ∧ cut.text = body ++ [.char '#'] by
      obtain ⟨body, hb, ht⟩ := this
      exact ⟨body, hb, ht, hs.symm⟩
    clear hs
    induction s generalizing cut with
    | nil => simp [throughMark] at h
    | cons c s ih =>
        rw [throughMark] at h
        split at h
        · next hc => cases h; exact ⟨[], by simp, by simp [hc]⟩
        · next hc =>
          obtain ⟨cut', h', rfl⟩ := Option.map_eq_some_iff.1 h
          obtain ⟨body, hb, ht⟩ := ih h'
          exact ⟨c :: body, by simp [hb, Ne.symm hc], by simp [Cut.cons, ht]⟩
  · rintro ⟨body, hb, ht, rfl⟩
    obtain ⟨text, rest⟩ := cut
    subst ht
    rw [List.append_assoc]
    exact throughMark_append_mark hb rest

/-- There is no way through a mark exactly where there is no mark. -/
lemma throughMark_eq_none_iff {s : Text} : throughMark s = none ↔ .char '#' ∉ s := by
  induction s with
  | nil => simp [throughMark]
  | cons c s ih =>
      rw [throughMark]
      split
      · next hc => simp [hc]
      · next hc => simp [ih, Ne.symm hc]

/-! ## Doubled quotes -/

/-- A content with every quote written twice. -/
def doubled : Text → Text
  | [] => []
  | c :: v => if c = '\'' then c :: c :: doubled v else c :: doubled v

/-- The literal of a content: its quotes doubled, between two quotes. -/
def quote (v : Text) : Text := .char '\'' :: doubled v ++ [.char '\'']

@[simp] lemma doubled_nil : doubled [] = [] := rfl

@[simp] lemma doubled_quote_cons (v : Text) :
    doubled (.char '\'' :: v) = .char '\'' :: .char '\'' :: doubled v := by simp [doubled]

lemma doubled_cons_of_ne {c : CodePoint} (h : c ≠ .char '\'') (v : Text) :
    doubled (c :: v) = c :: doubled v := by simp [doubled, h]

/-- Reading back: different contents are written differently. -/
lemma doubled_injective : Function.Injective doubled := by
  intro v
  induction v with
  | nil =>
      intro w h
      cases w with
      | nil => rfl
      | cons d w => rw [doubled_nil, doubled] at h; split at h <;> simp at h
  | cons c v ih =>
      intro w h
      cases w with
      | nil => rw [doubled_nil, doubled] at h; split at h <;> simp at h
      | cons d w =>
          -- the first characters agree, since both are written first
          have hcd : c = d := by
            have := congrArg List.head? h
            simp only [doubled] at this
            split at this <;> split at this <;> simpa using this
          subst hcd
          rw [doubled, doubled] at h
          split at h
          · simp only [List.cons.injEq, true_and] at h; rw [ih h]
          · simp only [List.cons.injEq, true_and] at h; rw [ih h]

lemma quote_injective : Function.Injective quote := by
  intro v w h
  simp only [quote, List.cons_append, List.cons.injEq, true_and] at h
  exact doubled_injective (List.append_cancel_right h)

/-! ## The end of a literal -/

/-- The two quotes of a doubled quote are passed over together. -/
lemma throughQuote_quote_quote (s : Text) :
    throughQuote (.char '\'' :: .char '\'' :: s) =
      (throughQuote s).map fun cut => (cut.cons (.char '\'')).cons (.char '\'') := by
  simp [throughQuote]

lemma throughQuote_cons_of_ne {c : CodePoint} (h : c ≠ .char '\'') (s : Text) :
    throughQuote (c :: s) = (throughQuote s).map (.cons c) := by
  cases s with
  | nil => simp [throughQuote, h]
  | cons d s => simp [throughQuote, h]

/-- A quote that no other follows ends the literal. -/
lemma throughQuote_quote {s : Text} (h : s.head? ≠ some (.char '\'')) :
    throughQuote (.char '\'' :: s) = some ⟨[.char '\''], s⟩ := by
  cases s with
  | nil => simp [throughQuote]
  | cons d s =>
      have hd : d ≠ .char '\'' := by simpa using h
      simp [throughQuote, hd]

/-- A search passes over a content with its quotes doubled. -/
lemma throughQuote_doubled_append (v s : Text) :
    throughQuote (doubled v ++ s) =
      (throughQuote s).map fun cut => ⟨doubled v ++ cut.text, cut.rest⟩ := by
  induction v with
  | nil => simp
  | cons c v ih =>
      by_cases hc : c = .char '\''
      · subst hc
        rw [doubled_quote_cons, List.cons_append, List.cons_append, throughQuote_quote_quote, ih,
          Option.map_map]
        rfl
      · rw [doubled_cons_of_ne hc, List.cons_append, throughQuote_cons_of_ne hc, ih,
          Option.map_map]
        rfl

/-- Every text is a content with its quotes doubled, up to its end or up to a quote that no other
follows. -/
lemma exists_doubled (s : Text) :
    (∃ v, s = doubled v) ∨
      ∃ v rest, s = doubled v ++ .char '\'' :: rest ∧ rest.head? ≠ some (.char '\'') := by
  fun_induction throughQuote s with
  | case1 => exact .inl ⟨[], rfl⟩
  | case2 => exact .inr ⟨[], [], rfl, by simp⟩
  | case3 c hc => exact .inl ⟨[c], by simp [doubled, hc]⟩
  | case4 s ih =>
      obtain ⟨v, rfl⟩ | ⟨v, rest, rfl, hr⟩ := ih
      · exact .inl ⟨.char '\'' :: v, (doubled_quote_cons v).symm⟩
      · exact .inr ⟨.char '\'' :: v, rest, by simp, hr⟩
  | case5 d s hd => exact .inr ⟨[], d :: s, rfl, by simpa using hd⟩
  | case6 c d s hc ih =>
      obtain ⟨v, hv⟩ | ⟨v, rest, hv, hr⟩ := ih
      · exact .inl ⟨c :: v, by rw [doubled_cons_of_ne hc, hv]⟩
      · exact .inr ⟨c :: v, rest, by rw [doubled_cons_of_ne hc, hv, List.cons_append], hr⟩

/-- A literal ends exactly after a content with its quotes doubled and a quote that no other
follows. -/
lemma throughQuote_eq_some_iff {s : Text} {cut : Cut} :
    throughQuote s = some cut ↔
      ∃ v, cut.text = doubled v ++ [.char '\''] ∧ s = cut.text ++ cut.rest ∧
        cut.rest.head? ≠ some (.char '\'') := by
  constructor
  · intro h
    obtain ⟨v, rfl⟩ | ⟨v, rest, rfl, hr⟩ := exists_doubled s
    · have hnone := throughQuote_doubled_append v []
      rw [List.append_nil, h] at hnone
      simp [throughQuote] at hnone
    · rw [throughQuote_doubled_append, throughQuote_quote hr] at h
      cases h
      exact ⟨v, rfl, by simp, hr⟩
  · rintro ⟨v, ht, rfl, hr⟩
    obtain ⟨text, rest⟩ := cut
    subst ht
    rw [List.append_assoc, throughQuote_doubled_append]
    simp only [List.cons_append, List.nil_append]
    rw [throughQuote_quote hr]
    rfl

/-- No literal ends in a text exactly when the text is a content with its quotes doubled. -/
lemma throughQuote_eq_none_iff {s : Text} : throughQuote s = none ↔ ∃ v, s = doubled v := by
  constructor
  · intro h
    obtain hv | ⟨v, rest, rfl, hr⟩ := exists_doubled s
    · exact hv
    · rw [throughQuote_doubled_append, throughQuote_quote hr] at h
      simp at h
  · rintro ⟨v, rfl⟩
    have h := throughQuote_doubled_append v []
    rw [List.append_nil] at h
    rw [h]
    simp [throughQuote]

end SqlFrontEnd.Lexing
