import Mathlib
import SqlFrontEnd.Proofs.Lexing.Driving
import SqlFrontEnd.Proofs.Lexing.Fault

/-!
# Halting

A cursor is halted by a string literal that is not closed.  Such a literal has taken all the text
there was, so the halt is never the reason why text stays unread: a run that does not ask for it
comes to the same end.  The invariant is `HaltedAtEnd`, and every command keeps it, also a rule that
does not fit the character it starts at.

* `Cursor.runToEnd` — a run that does not ask whether the cursor is halted.
* `HaltedAtEnd.perform`, `HaltedAtEnd.drive` — what a command and any sequence of commands keep.
* `HaltedAtEnd.rest_run`, `HaltedAtEnd.halted_run` — a run stops where nothing is left, and is
  halted in the end by the literals that it has met.
* `pairwise_closed` — what is reported as not closed is reported last.
* **`drive_haltedAtEnd`** — all of it, for every source.
-/

namespace SqlFrontEnd

open Place Lexing

/-- Scans to the end of the source, whether the cursor is halted or not. -/
def Cursor.runToEnd (policy : KeywordCase) (c : Cursor) : Cursor :=
  match _h : c.rest with
  | [] => c
  | x :: s => runToEnd policy (c.take policy (first x s).1)
termination_by c.rest.length
decreasing_by exact Cursor.length_rest_take_lt _h

namespace Lexing

variable {policy : KeywordCase} {source : Text} {c : Cursor}

/-! ## What commands keep -/

/-- A rule that consumes its first character whatever it is, and that takes all the text where it
finds no end of a literal. -/
lemma HaltedAtEnd.takeFirst (h : HaltedAtEnd c) {rule : CodePoint → Text → Segment × Text}
    (hrule : ∀ x s, (rule x s).1.item = .fault .unclosedString → (rule x s).1.text = x :: s) :
    HaltedAtEnd (c.orPastEnd (c.takeFirst policy rule)).2 := by
  unfold Cursor.takeFirst
  split
  · exact h
  · next x s hrest => exact h.take fun hitem => by rw [hrest, hrule x s hitem]

/-- A rule that takes a run of a class is never about a literal. -/
lemma HaltedAtEnd.takeRun (h : HaltedAtEnd c) {item : Item} (hitem : item ≠ .fault .unclosedString)
    (p : CodePoint → Bool) : HaltedAtEnd (c.takeRun policy item p) :=
  h.take fun heq => absurd heq hitem

lemma blockComment_item_ne (x : CodePoint) (s : Text) :
    (Lexing.blockComment x s).1.item ≠ .fault .unclosedString := by
  unfold Lexing.blockComment
  split <;> simp

lemma text_stringLiteral_of_unclosedString {x : CodePoint} {s : Text}
    (hitem : (stringLiteral x s).1.item = .fault .unclosedString) :
    (stringLiteral x s).1.text = x :: s := by
  unfold stringLiteral at hitem ⊢
  split at hitem
  · cases hitem
  · rfl

/-- **Every command keeps a halted cursor at the end.** -/
lemma HaltedAtEnd.perform (h : HaltedAtEnd c) (policy : KeywordCase) (command : Command) :
    HaltedAtEnd (c.perform policy command).2 := by
  cases command with
  | scan => exact h.takeFirst fun x s => text_first_of_unclosedString
  | run => exact Cursor.run_of_scan policy h fun d x s hd hrest => hd.take_first hrest
  | advance =>
      simp only [Cursor.perform]
      split
      · exact h
      · next x s hrest =>
        intro hhalted
        rw [h hhalted] at hrest
        cases hrest
  | current | peek | atEnd => exact h
  | lineComment => exact h.takeRun (by simp) inLine
  | word => exact h.takeRun (by simp) isWordPart
  | number => exact h.takeRun (by simp) isNumberPart
  | blockComment => exact h.takeFirst fun x s hitem => absurd hitem (blockComment_item_ne x s)
  | string => exact h.takeFirst fun x s => text_stringLiteral_of_unclosedString

lemma HaltedAtEnd.drive (h : HaltedAtEnd c) (policy : KeywordCase) (commands : List Command) :
    HaltedAtEnd (c.drive policy commands) := by
  induction commands generalizing c with
  | nil => exact h
  | cons command commands ih => exact ih (h.perform policy command)

lemma haltedAtEnd_start (source : Text) : HaltedAtEnd (Cursor.start source) := by
  simp [HaltedAtEnd, Cursor.start]

/-! ## Where a run stops -/

/-- **A run stops where nothing is left.** -/
lemma HaltedAtEnd.rest_run (h : HaltedAtEnd c) (policy : KeywordCase) :
    (c.run policy).rest = [] := by
  fun_induction Cursor.run policy c with
  | case1 c hhalted => exact h hhalted
  | case2 c _ hrest => exact hrest
  | case3 c _ x s hrest ih => exact ih (h.take_first hrest)

/-- **To ask for the halt makes no difference.** -/
lemma HaltedAtEnd.runToEnd_eq_run (h : HaltedAtEnd c) (policy : KeywordCase) :
    c.runToEnd policy = c.run policy := by
  fun_induction Cursor.run policy c with
  | case1 c hhalted => rw [Cursor.runToEnd, h hhalted]
  | case2 c _ hrest => rw [Cursor.runToEnd, hrest]
  | case3 c _ x s hrest ih =>
      rw [Cursor.runToEnd, hrest]
      exact ih (h.take_first hrest)

/-- A run halts its cursor where it meets a literal that is not closed, and else leaves it as it
was. -/
lemma HaltedAtEnd.halted_run (h : HaltedAtEnd c) (policy : KeywordCase) :
    (c.run policy).halted = (c.halted ||
      (segments c.rest).any fun segment => segment.item == .fault .unclosedString) := by
  fun_induction Cursor.run policy c with
  | case1 c hhalted => rw [hhalted, Bool.true_or]
  | case2 c _ hrest => rw [hrest, segments, List.any_nil, Bool.or_false]
  | case3 c _ x s hrest ih =>
      rw [ih (h.take_first hrest), rest_take_first hrest, hrest, segments, List.any_cons,
        ← Bool.or_assoc]
      rfl

/-! ## What is reported last -/

/-- Nothing follows what is not closed. -/
lemma Selected.rest_eq_nil {segment : Segment} {rest : Text} (h : Selected segment rest)
    (hitem : segment.item.isUnclosed = true) : rest = [] := by
  obtain ⟨item, text⟩ := segment
  cases item with
  | fault diagnostic =>
      obtain ⟨c, rfl, -⟩ | ⟨-, hrest⟩ := h.of_fault rfl
      · cases hitem
      · exact hrest
  | blank | lineComment | blockComment | word | number | string | operator | delimiter =>
      cases hitem

/-- **What is reported as not closed is reported last**: a token with another one behind it is the
report of something else. -/
lemma pairwise_closed {s : Text} {segs : List Segment} (h : Segmented [] s segs)
    (policy : KeywordCase) (p : Place) :
    (tokensFrom policy p segs).Pairwise fun t _ => t.isUnclosed = false := by
  induction h generalizing p with
  | nil => exact .nil
  | @cons segment rest segs _ hsel htail ih =>
      rw [tokensFrom, List.pairwise_append]
      refine ⟨by cases segment.token? policy p <;> simp, ih _, fun t ht t' ht' => ?_⟩
      rw [isUnclosed_of_token? (Option.mem_toList.1 ht)]
      by_contra hopen
      rw [List.append_nil] at hsel
      obtain rfl := hsel.rest_eq_nil (by simpa using hopen)
      obtain rfl : segs = [] := by rw [segmented_iff.1 htail, segments]
      cases ht'

/-- Where no token with another one behind it has a property, the last one alone can have it. -/
lemma only_last {p : Token → Bool} {ts : List Token} (h : ts.Pairwise fun t _ => p t = false) :
    ts.countP p ≤ 1 ∧ (∀ t ∈ ts.dropLast, p t = false) ∧
      ∀ t ∈ ts, p t = true → t ∈ ts.getLast? := by
  obtain rfl | ⟨before, last, rfl⟩ := List.eq_nil_or_concat ts
  · exact ⟨Nat.zero_le 1, by simp, by simp⟩
  · rw [List.concat_eq_append] at h ⊢
    rw [List.dropLast_concat, List.getLast?_concat]
    have hbefore : ∀ t ∈ before, p t = false := fun t ht =>
      (List.pairwise_append.1 h).2.2 t ht last List.mem_cons_self
    refine ⟨?_, hbefore, fun t ht hp => ?_⟩
    · have hnone : before.countP p = 0 :=
        List.countP_eq_zero.2 fun t ht => Bool.eq_false_iff.1 (hbefore t ht)
      rw [List.countP_append, hnone, Nat.zero_add]
      exact List.countP_le_length
    · obtain ht | rfl := List.mem_append.1 ht |>.imp_right List.mem_singleton.1
      · rw [hbefore t ht] at hp
        cases hp
      · rfl

/-- The tokens of a source report a literal that is not closed where a segment of it is one. -/
lemma any_reports_unclosedString (policy : KeywordCase) (source : Text) :
    (tokenize policy source).any (·.reports "Unclosed string literal") =
      (segments source).any fun segment => segment.item == .fault .unclosedString := by
  have hvalid : ∀ item : Item, item.isFault = false → (item == .fault .unclosedString) = false := by
    intro item hitem
    rw [beq_eq_false_iff_ne]
    rintro rfl
    cases hitem
  refine any_tokensFrom (g := (· == .fault .unclosedString))
    (fun h => reports_of_token? hvalid (fun diagnostic s => ?_) h)
    (fun segment hskip => hvalid _ (isFault_of_isSkipped hskip)) .start (segments source)
  rw [unclosedString_isPrefixOf_iff]
  simp

/-- A report that begins with the longer words begins with the shorter ones. -/
lemma isUnclosed_of_unclosedString {t : Token}
    (h : t.reports "Unclosed string literal" = true) : t.isUnclosed = true := by
  have hword : Text.ofString "Unclosed" <+: Text.ofString "Unclosed string literal" := by decide
  simp only [Token.isUnclosed, Token.reports, Bool.and_eq_true, List.isPrefixOf_iff_prefix] at h ⊢
  exact ⟨h.1, hword.trans h.2⟩

end Lexing

namespace Cursor

/-- **Halting never leaves text unread.**  In every state that any commands lead to, a halted cursor
stands at the end of the source; a run from there ends there too, and does so whether it asks for
the halt or not.  The run of a whole source finds its tokens.  At most one of these reports what is
not closed, and only the last one can.  The cursor is halted in the end just if the last token
reports a string literal that is not closed. -/
theorem drive_haltedAtEnd (policy : KeywordCase) (source : Text) :
    (∀ commands : List Command,
      let c := (start source).drive policy commands
      (c.halted = true → c.offset = source.length) ∧
        (c.run policy).offset = source.length ∧ c.runToEnd policy = c.run policy) ∧
    let c := (start source).run policy
    c.tokens = tokenize policy source ∧
      c.tokens.countP Token.isUnclosed ≤ 1 ∧
      (∀ t ∈ c.tokens.dropLast, t.isUnclosed = false) ∧
      (c.halted = true ↔
        ∃ t ∈ c.tokens.getLast?, t.reports "Unclosed string literal" = true) := by
  have hstart := haltedAtEnd_start source
  refine ⟨fun commands => ?states, ?tokens⟩
  case states =>
    have hhalted := hstart.drive policy commands
    have hlocated := (located_start source).drive policy commands
    refine ⟨fun h => hlocated.offset_eq_length (hhalted h), ?_, hhalted.runToEnd_eq_run policy⟩
    exact (hlocated.perform policy .run).offset_eq_length (hhalted.rest_run policy)
  case tokens =>
    have htokens : ((start source).run policy).tokens = tokenize policy source :=
      tokens_run policy (start source) hstart
    obtain ⟨hone, hclosed, hlast⟩ :=
      only_last (pairwise_closed (segmented_segments source) policy .start)
    intro c
    have hflag : c.halted = (tokenize policy source).any (·.reports "Unclosed string literal") := by
      rw [any_reports_unclosedString]
      exact hstart.halted_run policy
    rw [htokens, hflag, List.any_eq_true]
    refine ⟨rfl, hone, hclosed, ?_, ?_⟩
    · rintro ⟨t, ht, hreports⟩
      exact ⟨t, hlast t ht (isUnclosed_of_unclosedString hreports), hreports⟩
    · rintro ⟨t, ht, hreports⟩
      exact ⟨t, List.mem_of_getLast? ht, hreports⟩

end Cursor

end SqlFrontEnd
