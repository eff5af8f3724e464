import Mathlib
import SqlFrontEnd.Proofs.Lexing.Lookahead
import SqlFrontEnd.Proofs.Lexing.Relocation

/-!
# Line endings

A line may end with a line feed alone, or with a carriage return before it.  The return is a blank,
and whatever a line feed ends or leaves open, a return before it ends or leaves open as well.  It
takes up a column, but the line is over after it, so no token is told at another place.

One item reaches into the end of its line: a comment that runs to the line feed has the return as
its last character.  That is the only segment that is not the old one with returns in it, and since
a comment gives no token, nothing is seen of it.

* `Text.withReturns` — a text with a carriage return before every line feed.
* `Place.after_withReturns` — the places after it are those after the text.
* `Selected.withReturns` — all but a line comment before a line feed is selected as before.
* `tokensFrom_withReturns` — the segments with returns give the tokens with returns.
* **`tokenize_withReturns`** — returns are found in string literals and nowhere else.
-/

namespace SqlFrontEnd

open Place Lexing

namespace Text

/-- A text with a carriage return before every line feed. -/
def withReturns (s : Text) : Text :=
  s.flatMap fun c : CodePoint => if c = '\n' then [.char '\r', c] else [c]

lemma withReturns_append (s t : Text) : withReturns (s ++ t) = withReturns s ++ withReturns t :=
  List.flatMap_append

lemma withReturns_newline_cons (s : Text) :
    withReturns (.char '\n' :: s) = .char '\r' :: .char '\n' :: withReturns s := by
  simp [withReturns]

lemma withReturns_cons_of_ne {c : CodePoint} (h : c ≠ .char '\n') (s : Text) :
    withReturns (c :: s) = c :: withReturns s := by
  simp [withReturns, h]

/-- A text of one line stays as it is. -/
lemma withReturns_of_not_mem {s : Text} (h : .char '\n' ∉ s) : withReturns s = s := by
  induction s with
  | nil => rfl
  | cons c s ih =>
      simp only [List.mem_cons, not_or] at h
      rw [withReturns_cons_of_ne (Ne.symm h.1), ih h.2]

/-- No characters are put in but carriage returns. -/
lemma mem_withReturns {s : Text} {c : CodePoint} (h : c ∈ withReturns s) :
    c = .char '\r' ∨ c ∈ s := by
  obtain ⟨d, hd, hc⟩ := List.mem_flatMap.1 h
  split at hc
  · rcases List.mem_pair.1 hc with rfl | rfl
    · exact .inl rfl
    · exact .inr hd
  · obtain rfl := List.mem_singleton.1 hc
    exact .inr hd

/-- The first character is the old one, or a return before the line feed that was there. -/
lemma head?_withReturns_eq_iff {s : Text} {d : Char} (hfeed : d ≠ '\n') (hreturn : d ≠ '\r') :
    (withReturns s).head? = some (.char d) ↔ s.head? = some (.char d) := by
  cases s with
  | nil => rfl
  | cons c s =>
      by_cases hc : c = .char '\n'
      · subst hc
        simp [withReturns_newline_cons, hfeed.symm, hreturn.symm]
      · rw [withReturns_cons_of_ne hc, List.head?_cons, List.head?_cons]

end Text

open Text

/-- **No place is moved** by returns before line feeds. -/
lemma Place.after_withReturns (p : Place) (s : Text) : p.after (withReturns s) = p.after s := by
  induction s generalizing p with
  | nil => rfl
  | cons c s ih =>
      by_cases hc : c = .char '\n'
      · subst hc
        rw [withReturns_newline_cons, after_cons, after_cons, after_cons, ih]
        rfl
      · rw [withReturns_cons_of_ne hc, after_cons, after_cons, ih]

namespace Lexing

/-! ## The rules -/

/-- The same rules begin, since a return and a line feed begin the same. -/
lemma Rule.begins_withReturns (rule : Rule) (text : Text) :
    rule.begins (withReturns text) = rule.begins text := by
  cases text with
  | nil => rfl
  | cons c s =>
      by_cases hc : c = .char '\n'
      · subst hc
        rw [withReturns_newline_cons]
        cases rule <;> rfl
      · rw [withReturns_cons_of_ne hc]
        cases rule with
        | lineComment | twoCharacters =>
            simp (disch := decide) only [Rule.begins, twoCharacterOperators, List.any_cons,
              List.any_nil, Bool.beq_eq_decide_eq, head?_withReturns_eq_iff]
        | blank | blockComment | word | number | string | oneCharacter | unknown => rfl

/-- A run without line feeds ends before a return where it ended before a line feed. -/
lemma LongestRun.withReturns {p : CodePoint → Prop} {run rest : Text} (h : LongestRun p run rest)
    (hreturn : ¬ p (.char '\r')) : LongestRun p run (withReturns rest) := by
  refine ⟨h.1, fun c hc => ?_⟩
  cases rest with
  | nil => cases hc
  | cons d rest =>
      by_cases hd : d = .char '\n'
      · subst hd
        obtain rfl : .char '\r' = c := by simpa [withReturns_newline_cons] using hc
        exact hreturn
      · rw [withReturns_cons_of_ne hd] at hc
        exact h.2 c (by simpa using hc)

lemma not_mem_withReturns {s : Text} {d : Char} (hreturn : d ≠ '\r') (hs : .char d ∉ s) :
    .char d ∉ withReturns s := by
  intro hmem
  obtain hd | hd := mem_withReturns hmem
  · exact hreturn (by simpa using hd)
  · exact hs hd

lemma doubled_withReturns (v : Text) : doubled (withReturns v) = withReturns (doubled v) := by
  induction v with
  | nil => rfl
  | cons c v ih =>
      by_cases hc : c = .char '\n'
      · subst hc
        rw [doubled_cons_of_ne (by decide), withReturns_newline_cons, withReturns_newline_cons,
          doubled_cons_of_ne (by decide), doubled_cons_of_ne (by decide), ih]
      · rw [withReturns_cons_of_ne hc]
        by_cases hquote : c = .char '\''
        · subst hquote
          rw [doubled_quote_cons, doubled_quote_cons, ih, withReturns_cons_of_ne hc,
            withReturns_cons_of_ne hc]
        · rw [doubled_cons_of_ne hquote, doubled_cons_of_ne hquote, ih, withReturns_cons_of_ne hc]

lemma quote_withReturns (v : Text) : quote (withReturns v) = withReturns (quote v) := by
  rw [quote, quote, doubled_withReturns, withReturns_append, withReturns_cons_of_ne (by decide)]
  rfl

/-! ## The segments -/

/-- A segment with a carriage return before every line feed in it. -/
def Segment.withReturns (segment : Segment) : Segment :=
  ⟨segment.item, Text.withReturns segment.text⟩

/-- An item that cannot reach over the end of a line. -/
def Item.isWithinLine : Item → Bool
  | .lineComment | .word | .number | .operator _ | .delimiter _
  | .fault (.invalidCharacter _) => true
  | _ => false

lemma Selected.newline_not_mem {segment : Segment} {rest : Text} (h : Selected segment rest)
    (hitem : segment.item.isWithinLine = true) : .char '\n' ∉ segment.text := by
  have hfits := h.fits
  have hinvalid : ∀ c, segment.item = .fault (.invalidCharacter c) → c ≠ .char '\n' := by
    rintro c hitem rfl
    have hblank := h.not_begins_of_invalid hitem .blank (by simp)
    rw [hitem] at hfits
    rw [show segment.text = [.char '\n'] from hfits] at hblank
    cases hblank
  obtain ⟨item, text⟩ := segment
  cases item with
  | lineComment =>
      obtain ⟨body, rfl, hbody, -⟩ := hfits
      simpa using fun hmem => hbody _ hmem rfl
  | word =>
      obtain ⟨c, run, rfl, hc, hrun, -⟩ := hfits
      rw [List.mem_cons, not_or]
      exact ⟨by rintro rfl; exact absurd hc (by decide),
        fun hmem => absurd (hrun _ hmem) (by decide)⟩
  | number =>
      obtain ⟨c, run, rfl, hc, hrun, -⟩ := hfits
      rw [List.mem_cons, not_or]
      exact ⟨by rintro rfl; exact absurd hc (by decide),
        fun hmem => absurd (hrun _ hmem) (by decide)⟩
  | operator symbol =>
      have hdouble : ∀ entry ∈ twoCharacterOperators, entry.1.1 ≠ '\n' ∧ entry.1.2 ≠ '\n' := by
        decide
      have hsingle : ∀ entry ∈ oneCharacterItems, entry.1 ≠ '\n' := by decide
      obtain ⟨a, b, hmem, rfl⟩ | ⟨a, hmem, rfl⟩ := hfits
      · obtain ⟨ha, hb⟩ := hdouble _ hmem
        simp [Ne.symm ha, Ne.symm hb]
      · simp [Ne.symm (hsingle _ hmem)]
  | delimiter symbol =>
      have hsingle : ∀ entry ∈ oneCharacterItems, entry.1 ≠ '\n' := by decide
      obtain ⟨a, hmem, rfl⟩ := hfits
      simp [Ne.symm (hsingle _ hmem)]
  | fault diagnostic =>
      cases diagnostic with
      | invalidCharacter c =>
          obtain rfl : text = [c] := hfits
          simpa using Ne.symm (hinvalid c rfl)
      | unclosedComment | unclosedString => cases hitem
  | blank | blockComment | string => cases hitem

/-- What is within a line stays as it is. -/
lemma Selected.withReturns_eq {segment : Segment} {rest : Text} (h : Selected segment rest)
    (hitem : segment.item.isWithinLine = true) : segment.withReturns = segment := by
  rw [Segment.withReturns, withReturns_of_not_mem (h.newline_not_mem hitem)]

/-- A rule takes with returns what it takes without. -/
lemma Rule.Takes.withReturns {rule : Rule} {segment : Segment} {rest : Text}
    (h : rule.Takes segment rest) (hblank : segment.text ≠ [.char '\n'])
    (hcomment : segment.item = .lineComment → rest = [])
    (hline : segment.item.isWithinLine = true → segment.withReturns = segment) :
    rule.Takes segment.withReturns (Text.withReturns rest) := by
  cases rule with
  | blank =>
      obtain ⟨hitem, c, hc, ht⟩ := h
      have hfeed : c ≠ .char '\n' := by
        rintro rfl
        exact hblank ht
      exact ⟨hitem, c, hc, by rw [Segment.withReturns, ht, withReturns_cons_of_ne hfeed]; rfl⟩
  | lineComment =>
      rw [hline (by rw [h.1]; rfl), hcomment h.1]
      rwa [hcomment h.1] at h
  | blockComment =>
      obtain ⟨body, hb, rfl | ⟨rfl, rfl⟩⟩ := h
      · refine ⟨Text.withReturns body, not_mem_withReturns (by decide) hb, .inl ?_⟩
        rw [Segment.withReturns, withReturns_append, withReturns_cons_of_ne (by decide)]
        rfl
      · refine ⟨Text.withReturns body, not_mem_withReturns (by decide) hb, .inr ⟨?_, rfl⟩⟩
        rw [Segment.withReturns, withReturns_cons_of_ne (by decide)]
  | word =>
      rw [hline (by rw [h.1]; rfl)]
      obtain ⟨hitem, c, run, ht, hc, hrun⟩ := h
      exact ⟨hitem, c, run, ht, hc, hrun.withReturns (by decide)⟩
  | number =>
      rw [hline (by rw [h.1]; rfl)]
      obtain ⟨hitem, c, run, ht, hc, hrun⟩ := h
      exact ⟨hitem, c, run, ht, hc, hrun.withReturns (by decide)⟩
  | string =>
      obtain ⟨content, ⟨rfl, hr⟩ | ⟨rfl, rfl⟩⟩ := h
      · refine ⟨Text.withReturns content, .inl ⟨?_, ?_⟩⟩
        · rw [quote_withReturns, Segment.withReturns]
        · rwa [ne_eq, head?_withReturns_eq_iff (by decide) (by decide)]
      · refine ⟨Text.withReturns content, .inr ⟨?_, rfl⟩⟩
        rw [doubled_withReturns, Segment.withReturns, withReturns_cons_of_ne (by decide)]
  | twoCharacters =>
      obtain ⟨a, b, symbol, hmem, rfl⟩ := h
      rw [hline rfl]
      exact ⟨a, b, symbol, hmem, rfl⟩
  | oneCharacter =>
      obtain ⟨a, item, hmem, rfl⟩ := h
      have hall : ∀ entry ∈ oneCharacterItems, entry.2.isWithinLine = true := by decide
      rw [hline (hall _ hmem)]
      exact ⟨a, item, hmem, rfl⟩
  | unknown =>
      obtain ⟨c, rfl⟩ := h
      rw [hline rfl]
      exact ⟨c, rfl⟩

/-- **The selection stays**, with returns, except where a comment runs to the end of a line and for
the end itself. -/
lemma Selected.withReturns {segment : Segment} {rest : Text} (h : Selected segment rest)
    (hblank : segment.text ≠ [.char '\n']) (hcomment : segment.item = .lineComment → rest = []) :
    Selected segment.withReturns (Text.withReturns rest) := by
  have hline := h.withReturns_eq
  obtain ⟨rule, hrule, htakes⟩ := h
  refine ⟨rule, ?_, htakes.withReturns hblank hcomment hline⟩
  rw [Segment.withReturns, ← withReturns_append]
  refine Rule.inCharge?_of_imp hrule (fun r hr => ?_) ?_
  · rwa [Rule.begins_withReturns] at hr
  · rw [Rule.begins_withReturns]
    exact Rule.begins_of_inCharge? hrule

/-- A comment that runs to the end of a line takes the return there. -/
lemma Selected.append_return {segment : Segment} {rest : Text}
    (h : Selected segment (.char '\n' :: rest)) (hitem : segment.item = .lineComment) (t : Text) :
    Selected ⟨.lineComment, segment.text ++ [.char '\r']⟩ (.char '\n' :: t) := by
  have hfits := h.fits
  rw [hitem] at hfits
  obtain ⟨body, htext, hbody, -⟩ := hfits
  refine ⟨.lineComment, ?_, rfl, body ++ [.char '\r'], by simp [htext], ?_, by simp⟩
  · simp [htext, Rule.inCharge?, Rule.priority, Rule.begins]
    decide
  · intro c hc
    rcases List.mem_append.1 hc with hc | hc
    · exact hbody c hc
    · obtain rfl := List.mem_singleton.1 hc
      decide

/-- A line comment ends at the end of its line. -/
lemma Selected.head?_of_lineComment {segment : Segment} {rest : Text} (h : Selected segment rest)
    (hitem : segment.item = .lineComment) : rest = [] ∨ ∃ t, rest = .char '\n' :: t := by
  have hfits := h.fits
  rw [hitem] at hfits
  obtain ⟨body, -, -, hend⟩ := hfits
  cases rest with
  | nil => exact .inl rfl
  | cons c t => exact .inr ⟨t, by rw [not_not.1 (hend c rfl)]⟩

lemma segments_of_selected {segment : Segment} {rest : Text} (h : Selected segment rest) :
    segments (segment.text ++ rest) = segment :: segments rest :=
  segments_append (.single h)

end Lexing

/-! ## The tokens -/

/-- A token with a carriage return before every line feed of a string literal.  All other tokens
stay as they are. -/
def Token.withReturns (t : Token) : Token :=
  if t.kind = .string then { t with lexeme := Text.withReturns t.lexeme } else t

namespace Lexing

/-- The token of a segment with returns in it. -/
lemma Selected.token?_withReturns {segment : Segment} {rest : Text} (h : Selected segment rest)
    (policy : KeywordCase) (p : Place) :
    segment.withReturns.token? policy p = (segment.token? policy p).map Token.withReturns := by
  have hline := h.withReturns_eq
  obtain ⟨item, text⟩ := segment
  cases item with
  | blank | lineComment | blockComment => rfl
  | word =>
      have hword : wordKind policy text ≠ .string := by
        obtain ⟨_, hkind⟩ | hkind | hkind := wordKind_cases policy text <;> simp [hkind]
      rw [hline rfl]
      simp [Segment.token?, Token.withReturns, hword]
  | number | operator | delimiter =>
      rw [hline rfl]
      simp [Segment.token?, Token.withReturns]
  | string | fault => simp [Segment.token?, Token.withReturns, Segment.withReturns]

/-- **The segments with returns give the tokens with returns**, wherever they start. -/
lemma tokensFrom_withReturns {policy : KeywordCase} {s : Text} {segs : List Segment}
    (h : Segmented [] s segs) (p : Place) :
    tokensFrom policy p (segments (Text.withReturns s)) =
      (tokensFrom policy p segs).map Token.withReturns := by
  have hreturn := fun t => segments_of_selected (selected_blank (c := .char '\r') (by decide) t)
  have hfeed := fun t => segments_of_selected (selected_blank (c := .char '\n') (by decide) t)
  induction h generalizing p with
  | nil => rw [Text.withReturns, List.flatMap_nil, segments]; rfl
  | @cons segment rest segs hne hsel _ ih =>
      rw [List.append_nil] at hsel
      have hsegs := segments_of_selected hsel
      rw [withReturns_append]
      by_cases hblank : segment.text = [.char '\n']
      · -- the end of a line: the return is one blank more
        obtain rfl : segment = ⟨.blank, [.char '\n']⟩ := by
          rw [hblank] at hsegs
          exact (List.cons.inj (hsegs.symm.trans (hfeed rest))).1
        change tokensFrom policy p (segments ([.char '\r'] ++ ([.char '\n'] ++ _))) = _
        rw [hreturn, hfeed]
        exact ih _
      · obtain hend | ⟨hitem, t, rfl⟩ : (segment.item = .lineComment → rest = []) ∨
            segment.item = .lineComment ∧ ∃ t, rest = .char '\n' :: t := by
          by_cases hitem : segment.item = .lineComment
          · exact (hsel.head?_of_lineComment hitem).imp (fun hnil _ => hnil) fun ht => ⟨hitem, ht⟩
          · exact .inl fun h => absurd h hitem
        · change tokensFrom policy p (segments (segment.withReturns.text ++ _)) = _
          have hafter : p.after segment.withReturns.text = p.after segment.text :=
            after_withReturns p segment.text
          rw [segments_of_selected (hsel.withReturns hblank hend), tokensFrom, tokensFrom,
            hsel.token?_withReturns, hafter, ih, List.map_append]
          cases segment.token? policy p <;> rfl
        · -- the return goes from the end of the line to the comment, which gives no token
          have hnone (text : Text) (q : Place) :
              Segment.token? policy q ⟨.lineComment, text⟩ = none := rfl
          have hcut := segments_of_selected (hsel.append_return hitem (Text.withReturns t))
          have htail := ih (p.after segment.text)
          rw [withReturns_newline_cons] at htail ⊢
          rw [withReturns_of_not_mem (hsel.newline_not_mem (by rw [hitem]; rfl))]
          rw [List.append_assoc] at hcut
          obtain ⟨item, text⟩ := segment
          obtain rfl : item = .lineComment := hitem
          change tokensFrom policy p (segments (text ++ ([.char '\r'] ++ _))) = _
          rw [hcut, tokensFrom, tokensFrom, hnone, hnone, after_append]
          change tokensFrom policy _ (segments ([.char '\r'] ++ _)) = _ at htail
          rw [hreturn] at htail
          exact htail

end Lexing

/-- **Line endings do not move tokens.**  A source in which every line feed has a carriage return
before it has as many tokens as the source without, with the same kinds, lines and columns and the
same reports.  The lexemes are the same too, except that the line feeds within string literals have
returns before them.  The source may have carriage returns of its own, which stay where they are. -/
theorem tokenize_withReturns (policy : KeywordCase) (source : Text) :
    tokenize policy (Text.withReturns source) =
      (tokenize policy source).map Token.withReturns :=
  tokensFrom_withReturns (segmented_segments source) .start

/-- A comment to the end of its line, behind a dash that is an operator, then an invalid character,
and a literal that is not closed on its line. -/
example : tokenize .sensitive (Text.ofString "-!--'\r\n!\r\n='a\r\n'") =
    [⟨.operator .minus, Text.ofString "-", 1, 1⟩,
      ⟨.error, Text.ofString "Invalid character '!' at line 1, column 2", 1, 2⟩,
      ⟨.error, Text.ofString "Invalid character '!' at line 2, column 1", 2, 1⟩,
      ⟨.operator .equal, Text.ofString "=", 3, 1⟩,
      ⟨.string, Text.ofString "'a\r\n'", 3, 2⟩] := by decide +kernel

end SqlFrontEnd
