import Mathlib
import SqlFrontEnd.Lexing.Segment
import SqlFrontEnd.Proofs.Lexing.Closing

/-!
# The item at the start of a text

What stands at the start of a text is decided by nine rules.  This file states them as a reference
that does not compute: which rule is in charge (`Rule.inCharge?`, the first in order of priority
that begins there), and how far its item reaches (`Rule.Takes`, by the shape of the item and of
what follows it).  `Selected` puts the two together.

* **`selected_iff`** — the reference agrees with `first`, so it selects exactly one segment at the
  start of every text that is not empty.
* `Selected.fits` — what the item of a selected segment tells about the segment.
* `Selected.extend`, `Selected.restrict` — no rule looks further than one character past its item.
  A selection stays when a text that goes on after the item is made longer at its end, and it stays
  whenever the text is cut short after the item.
-/

namespace SqlFrontEnd.Lexing

/-- The rules that a source is read by. -/
inductive Rule where
  | blank | lineComment | blockComment | word | number | string
  | twoCharacters | oneCharacter | unknown
deriving DecidableEq, Repr

/-- The operators of two characters. -/
def twoCharacterOperators : List ((Char × Char) × Operator) :=
  [(('>', '='), .greaterEqual), (('<', '='), .lessEqual), (('<', '>'), .notEqual),
   (('!', '='), .notEqual)]

/-- The operators and delimiters of one character. -/
def oneCharacterItems : List (Char × Item) :=
  [('>', .operator .greaterThan), ('<', .operator .lessThan), ('=', .operator .equal),
   ('+', .operator .plus), ('-', .operator .minus), ('*', .operator .multiply),
   ('/', .operator .divide), ('(', .delimiter .leftParen), (')', .delimiter .rightParen),
   (',', .delimiter .comma), (';', .delimiter .semicolon)]

/-- A run of characters of a class that the text after it does not continue. -/
def LongestRun (p : CodePoint → Prop) (run rest : Text) : Prop :=
  (∀ c ∈ run, p c) ∧ ∀ c ∈ rest.head?, ¬ p c

namespace Rule

/-- The rules, in order of priority. -/
def priority : List Rule :=
  [blank, lineComment, blockComment, word, number, string, twoCharacters, oneCharacter, unknown]

/-- Tests whether the item of a rule may begin at the start of a text. -/
def begins : Rule → Text → Bool
  | _, [] => false
  | blank, c :: _ => c.holds Text.isBlank
  | lineComment, c :: s => c == .char '-' && s.head? == some (.char '-')
  | blockComment, c :: _ => c == .char '#'
  | word, c :: _ => c.holds Text.isLetter
  | number, c :: _ => c.holds Text.isDigit
  | string, c :: _ => c == .char '\''
  | twoCharacters, c :: s =>
    twoCharacterOperators.any fun ((a, b), _) => c == .char a && s.head? == some (.char b)
  | oneCharacter, c :: _ => oneCharacterItems.any fun (a, _) => c == .char a
  | unknown, _ :: _ => true

/-- The rule that decides about the start of a text. -/
def inCharge? (text : Text) : Option Rule := priority.find? (·.begins text)

/-- A rule takes a segment from a text and leaves the rest of it. -/
def Takes : Rule → Segment → Text → Prop
  | blank, segment, _ => segment.item = .blank ∧ ∃ c, c.holds Text.isBlank ∧ segment.text = [c]
  | lineComment, segment, rest =>
    segment.item = .lineComment ∧ ∃ body, segment.text = .char '-' :: .char '-' :: body ∧
      LongestRun (· ≠ .char '\n') body rest
  | blockComment, segment, rest =>
    ∃ body, .char '#' ∉ body ∧
      (segment = ⟨.blockComment, .char '#' :: body ++ [.char '#']⟩ ∨
        segment = ⟨.fault .unclosedComment, .char '#' :: body⟩ ∧ rest = [])
  | word, segment, rest =>
    segment.item = .word ∧ ∃ c run, segment.text = c :: run ∧ c.holds Text.isLetter ∧
      LongestRun (isWordPart ·) run rest
  | number, segment, rest =>
    segment.item = .number ∧ ∃ c run, segment.text = c :: run ∧ c.holds Text.isDigit ∧
      LongestRun (isNumberPart ·) run rest
  | string, segment, rest =>
    ∃ content, segment = ⟨.string, quote content⟩ ∧ rest.head? ≠ some (.char '\'') ∨
      segment = ⟨.fault .unclosedString, .char '\'' :: doubled content⟩ ∧ rest = []
  | twoCharacters, segment, _ =>
    ∃ a b symbol, ((a, b), symbol) ∈ twoCharacterOperators ∧
      segment = ⟨.operator symbol, [.char a, .char b]⟩
  | oneCharacter, segment, _ =>
    ∃ a item, (a, item) ∈ oneCharacterItems ∧ segment = ⟨item, [.char a]⟩
  | unknown, segment, _ => ∃ c, segment = ⟨.fault (.invalidCharacter c), [c]⟩

end Rule

/-- The segment that the rules select at the start of a text, which goes on with `rest`. -/
def Selected (segment : Segment) (rest : Text) : Prop :=
  ∃ rule, Rule.inCharge? (segment.text ++ rest) = some rule ∧ rule.Takes segment rest

/-- What an item tells about the text of its segment and about what follows it. -/
def Item.Fits : Item → Text → Text → Prop
  | blank, text, _ => ∃ c, c.holds Text.isBlank ∧ text = [c]
  | lineComment, text, rest =>
    ∃ body, text = .char '-' :: .char '-' :: body ∧ LongestRun (· ≠ .char '\n') body rest
  | blockComment, text, _ => ∃ body, .char '#' ∉ body ∧ text = .char '#' :: body ++ [.char '#']
  | word, text, rest =>
    ∃ c run, text = c :: run ∧ c.holds Text.isLetter ∧ LongestRun (isWordPart ·) run rest
  | number, text, rest =>
    ∃ c run, text = c :: run ∧ c.holds Text.isDigit ∧ LongestRun (isNumberPart ·) run rest
  | string, text, rest => ∃ content, text = quote content ∧ rest.head? ≠ some (.char '\'')
  | operator symbol, text, _ =>
    (∃ a b, ((a, b), symbol) ∈ twoCharacterOperators ∧ text = [.char a, .char b]) ∨
      ∃ a, (a, .operator symbol) ∈ oneCharacterItems ∧ text = [.char a]
  | delimiter symbol, text, _ => ∃ a, (a, .delimiter symbol) ∈ oneCharacterItems ∧ text = [.char a]
  | fault (.invalidCharacter c), text, _ => text = [c]
  | fault .unclosedComment, text, rest =>
    ∃ body, .char '#' ∉ body ∧ text = .char '#' :: body ∧ rest = []
  | fault .unclosedString, text, rest =>
    ∃ content, text = .char '\'' :: doubled content ∧ rest = []

/-! ## The rules as functions

Each family of items is cut off by a function of its own.  What such a function returns is told by
the shape of the segment and of what follows it. -/

lemma runOf_eq_iff {item : Item} {p : CodePoint → Bool} {s rest : Text} {segment : Segment} :
    runOf item p s = (segment, rest) ↔
      segment.item = item ∧ segment.text ++ rest = s ∧ LongestRun (p ·) segment.text rest := by
  obtain ⟨item', run⟩ := segment
  simp only [runOf, Cut.run, Prod.mk.injEq, Segment.mk.injEq]
  constructor
  · rintro ⟨⟨rfl, rfl⟩, rfl⟩
    refine ⟨rfl, List.takeWhile_append_dropWhile, fun c hc => List.mem_takeWhile_imp hc, ?_⟩
    intro c hc
    have h := List.head?_dropWhile_not p s
    rw [Option.mem_def.1 hc] at h
    simpa using h
  · rintro ⟨rfl, rfl, hrun, hrest⟩
    have hstop : rest.takeWhile p = [] ∧ rest.dropWhile p = rest := by
      cases rest with
      | nil => simp
      | cons c rest => simpa using hrest c rfl
    rw [List.takeWhile_append_of_pos hrun, List.dropWhile_append_of_pos hrun, hstop.1, hstop.2,
      List.append_nil]
    exact ⟨⟨rfl, rfl⟩, rfl⟩

/-- The first character of a run is a matter of its rule, the others of the class. -/
lemma runOf_cons_eq_iff {item : Item} {p : CodePoint → Bool} {c : CodePoint} {s rest : Text}
    {segment : Segment} (hc : p c = true) :
    runOf item p (c :: s) = (segment, rest) ↔
      segment.text ++ rest = c :: s ∧ segment.item = item ∧
        ∃ run, segment.text = c :: run ∧ LongestRun (p ·) run rest := by
  rw [runOf_eq_iff]
  constructor
  · rintro ⟨hitem, hs, hrun, hrest⟩
    obtain ⟨run, ht⟩ : ∃ run, segment.text = c :: run := by
      cases ht : segment.text with
      | nil =>
          rw [ht, List.nil_append] at hs
          exact absurd hc (hrest c (by simp [hs]))
      | cons d run =>
          rw [ht, List.cons_append, List.cons.injEq] at hs
          exact ⟨run, by rw [hs.1]⟩
    exact ⟨hs, hitem, run, ht, fun d hd => hrun d (by simp [ht, hd]), hrest⟩
  · rintro ⟨hs, hitem, run, ht, hrun, hrest⟩
    refine ⟨hitem, hs, fun d hd => ?_, hrest⟩
    rw [ht, List.mem_cons] at hd
    rcases hd with rfl | hd
    · exact hc
    · exact hrun d hd

/-- A run that begins with a character of a class of its own. -/
lemma runOf_begin_eq_iff {item : Item} {p : CodePoint → Bool} {q : CodePoint → Prop}
    {c : CodePoint} {s rest : Text} {segment : Segment} (hc : p c = true) (hq : q c) :
    runOf item p (c :: s) = (segment, rest) ↔
      segment.text ++ rest = c :: s ∧ segment.item = item ∧
        ∃ d run, segment.text = d :: run ∧ q d ∧ LongestRun (p ·) run rest := by
  rw [runOf_cons_eq_iff hc]
  refine and_congr_right fun hs => and_congr_right fun _ => ⟨?_, ?_⟩
  · rintro ⟨run, ht, hrun⟩
    exact ⟨c, run, ht, hq, hrun⟩
  · rintro ⟨d, run, ht, -, hrun⟩
    rw [ht, List.cons_append, List.cons.injEq] at hs
    exact ⟨run, by rw [ht, hs.1], hrun⟩

lemma blockComment_eq_iff {c : CodePoint} {s rest : Text} {segment : Segment} :
    blockComment c s = (segment, rest) ↔
      segment.text ++ rest = c :: s ∧ ∃ body, .char '#' ∉ body ∧
        (segment = ⟨.blockComment, c :: body ++ [.char '#']⟩ ∨
          segment = ⟨.fault .unclosedComment, c :: body⟩ ∧ rest = []) := by
  unfold blockComment
  constructor
  · intro h
    split at h
    · next cut hcut =>
      obtain ⟨body, hb, ht, hs⟩ := throughMark_eq_some_iff.1 hcut
      cases h
      exact ⟨by simp [hs], body, hb, .inl (by simp [ht])⟩
    · next hnone =>
      cases h
      exact ⟨by simp, s, throughMark_eq_none_iff.1 hnone, .inr ⟨rfl, rfl⟩⟩
  · rintro ⟨hs, body, hb, rfl | ⟨rfl, rfl⟩⟩
    · simp only [List.cons_append, List.cons.injEq, true_and] at hs
      have hcut : throughMark s = some ⟨body ++ [.char '#'], rest⟩ :=
        throughMark_eq_some_iff.2 ⟨body, hb, rfl, hs.symm⟩
      rw [hcut]
      rfl
    · simp only [List.append_nil, List.cons.injEq, true_and] at hs
      subst hs
      rw [throughMark_eq_none_iff.2 hb]

lemma stringLiteral_eq_iff {c : CodePoint} {s rest : Text} {segment : Segment} :
    stringLiteral c s = (segment, rest) ↔
      segment.text ++ rest = c :: s ∧ ∃ content,
        segment = ⟨.string, c :: doubled content ++ [.char '\'']⟩ ∧
            rest.head? ≠ some (.char '\'') ∨
          segment = ⟨.fault .unclosedString, c :: doubled content⟩ ∧ rest = [] := by
  unfold stringLiteral
  constructor
  · intro h
    split at h
    · next cut hcut =>
      obtain ⟨content, ht, hs, hr⟩ := throughQuote_eq_some_iff.1 hcut
      cases h
      exact ⟨by simp [hs], content, .inl ⟨by simp [ht], hr⟩⟩
    · next hnone =>
      obtain ⟨content, rfl⟩ := throughQuote_eq_none_iff.1 hnone
      cases h
      exact ⟨by simp, content, .inr ⟨rfl, rfl⟩⟩
  · rintro ⟨hs, content, ⟨rfl, hr⟩ | ⟨rfl, rfl⟩⟩
    · simp only [List.cons_append, List.cons.injEq, true_and] at hs
      have hcut : throughQuote s = some ⟨doubled content ++ [.char '\''], rest⟩ :=
        throughQuote_eq_some_iff.2 ⟨content, rfl, hs.symm, hr⟩
      rw [hcut]
      rfl
    · simp only [List.append_nil, List.cons.injEq, true_and] at hs
      subst hs
      rw [throughQuote_eq_none_iff.2 ⟨content, rfl⟩]

lemma doubleOperator?_eq_some_iff {c d : CodePoint} {symbol : Operator} :
    doubleOperator? c d = some symbol ↔
      ∃ a b, ((a, b), symbol) ∈ twoCharacterOperators ∧ c = .char a ∧ d = .char b := by
  simp only [doubleOperator?, twoCharacterOperators, List.mem_cons, List.not_mem_nil, or_false,
    Prod.mk.injEq]
  constructor
  · intro h
    split_ifs at h with h₁ h₂ h₃ h₄ <;> cases h <;> grind
  · rintro ⟨a, b, h, rfl, rfl⟩
    obtain ⟨⟨rfl, rfl⟩, rfl⟩ | ⟨⟨rfl, rfl⟩, rfl⟩ | ⟨⟨rfl, rfl⟩, rfl⟩ | ⟨⟨rfl, rfl⟩, rfl⟩ := h <;>
      decide

lemma singleItem_of_mem : ∀ entry ∈ oneCharacterItems, singleItem (.char entry.1) = entry.2 := by
  decide

lemma singleItem_of_not_begins {c : CodePoint} {s : Text}
    (h : Rule.oneCharacter.begins (c :: s) = false) :
    singleItem c = .fault (.invalidCharacter c) := by
  simp [Rule.begins, oneCharacterItems] at h
  simp [singleItem, singleOperator?, delimiter?, h]

/-! ## The rule in charge -/

namespace Rule

lemma begins_of_inCharge? {text : Text} {rule : Rule} (h : inCharge? text = some rule) :
    rule.begins text = true := by
  have h' := List.find?_some (p := fun r : Rule => r.begins text) h
  exact h'

/-- The rule in charge stays in charge where it still begins and no other rule begins anew. -/
lemma inCharge?_of_imp {text text' : Text} {rule : Rule} (h : inCharge? text = some rule)
    (himp : ∀ r : Rule, r.begins text' = true → r.begins text = true)
    (hrule : rule.begins text' = true) : inCharge? text' = some rule := by
  obtain ⟨-, before, after, hsplit, hbefore⟩ := List.find?_eq_some_iff_append.1 h
  refine List.find?_eq_some_iff_append.2 ⟨hrule, before, after, hsplit, fun r hr => ?_⟩
  have hr' := hbefore r hr
  simp only [Bool.not_eq_true'] at hr' ⊢
  exact Bool.eq_false_iff.2 fun h' => Bool.eq_false_iff.1 hr' (himp r h')

/-- Some rule is in charge wherever a character stands. -/
lemma exists_inCharge? (c : CodePoint) (s : Text) : ∃ rule, inCharge? (c :: s) = some rule := by
  have h : (inCharge? (c :: s)).isSome = true := by
    rw [inCharge?, List.find?_isSome]
    exact ⟨unknown, by decide, rfl⟩
  exact Option.isSome_iff_exists.1 h

/-- What a rule cuts off. -/
def take : Rule → CodePoint → Text → Segment × Text
  | blank, c, s => (⟨.blank, [c]⟩, s)
  | lineComment, c, s => runOf .lineComment inLine (c :: s)
  | blockComment, c, s => Lexing.blockComment c s
  | word, c, s => runOf .word isWordPart (c :: s)
  | number, c, s => runOf .number isNumberPart (c :: s)
  | string, c, s => stringLiteral c s
  | twoCharacters, c, s => shortItem c s
  | oneCharacter, c, s => (⟨singleItem c, [c]⟩, s)
  | unknown, c, s => (⟨.fault (.invalidCharacter c), [c]⟩, s)

end Rule

lemma Rule.begins_twoCharacters_iff {c : CodePoint} {s : Text} :
    Rule.twoCharacters.begins (c :: s) = true ↔
      ∃ a b symbol, ((a, b), symbol) ∈ twoCharacterOperators ∧ c = .char a ∧
        s.head? = some (.char b) := by
  simp only [Rule.begins, List.any_eq_true, Bool.and_eq_true, beq_iff_eq, Prod.exists]

lemma Rule.begins_oneCharacter_iff {c : CodePoint} {s : Text} :
    Rule.oneCharacter.begins (c :: s) = true ↔
      ∃ a item, (a, item) ∈ oneCharacterItems ∧ c = .char a := by
  simp only [Rule.begins, List.any_eq_true, beq_iff_eq, Prod.exists]

lemma shortItem_of_not_begins {c : CodePoint} {s : Text}
    (h : Rule.twoCharacters.begins (c :: s) = false) :
    shortItem c s = (⟨singleItem c, [c]⟩, s) := by
  cases s with
  | nil => rfl
  | cons d s =>
      have hnone : doubleOperator? c d = none := by
        by_contra hsome
        obtain ⟨symbol, hsymbol⟩ := Option.ne_none_iff_exists'.1 hsome
        obtain ⟨a, b, hmem, rfl, rfl⟩ := doubleOperator?_eq_some_iff.1 hsymbol
        have hbegins : Rule.twoCharacters.begins (.char a :: .char b :: s) = true :=
          Rule.begins_twoCharacters_iff.2 ⟨a, b, symbol, hmem, rfl, rfl⟩
        rw [hbegins] at h
        cases h
      rw [shortItem, hnone]

/-- The tests of `first` are those of the rules, in the same order. -/
lemma first_eq_take {c : CodePoint} {s : Text} {rule : Rule}
    (h : Rule.inCharge? (c :: s) = some rule) : first c s = rule.take c s := by
  have hshort := shortItem_of_not_begins (c := c) (s := s)
  have hsingle := singleItem_of_not_begins (c := c) (s := s)
  simp only [Rule.inCharge?, Rule.priority, List.find?_cons, Rule.begins] at h hshort hsingle
  unfold first
  repeat' split at h
  all_goals cases h
  all_goals simp_all [Rule.take]

/-- A segment of one given character is a matter of the first character. -/
lemma single_eq_iff {c : CodePoint} {s rest : Text} {item : Item} {segment : Segment} :
    ((⟨item, [c]⟩, s) : Segment × Text) = (segment, rest) ↔
      segment.text ++ rest = c :: s ∧ segment = ⟨item, [c]⟩ := by
  constructor
  · intro h
    cases h
    exact ⟨rfl, rfl⟩
  · rintro ⟨hs, rfl⟩
    simp only [List.singleton_append, List.cons.injEq, true_and] at hs
    rw [hs]

/-- **Each rule cuts off what it is said to take.** -/
lemma Rule.take_eq_iff {c : CodePoint} {s rest : Text} {segment : Segment} {rule : Rule}
    (h : rule.begins (c :: s) = true) :
    rule.take c s = (segment, rest) ↔
      segment.text ++ rest = c :: s ∧ rule.Takes segment rest := by
  cases rule with
  | blank =>
      rw [Rule.take, single_eq_iff]
      refine and_congr_right fun hs => ⟨?_, ?_⟩
      · rintro rfl
        exact ⟨rfl, c, h, rfl⟩
      · obtain ⟨item, text⟩ := segment
        rintro ⟨rfl, d, -, rfl⟩
        simp only [List.singleton_append, List.cons.injEq] at hs
        rw [hs.1]
  | lineComment =>
      simp only [Rule.begins, Bool.and_eq_true, beq_iff_eq] at h
      obtain ⟨rfl, hd⟩ := h
      obtain ⟨s, rfl⟩ : ∃ s', s = .char '-' :: s' := by
        cases s with
        | nil => cases hd
        | cons d s' => exact ⟨s', by simpa using hd⟩
      rw [Rule.take, runOf_cons_eq_iff (by decide)]
      refine and_congr_right fun hs => and_congr_right fun _ => ⟨?_, ?_⟩
      · rintro ⟨run, ht, hrun, hrest⟩
        -- the second dash belongs to the run, since it is no line feed
        obtain ⟨body, rfl⟩ : ∃ body, run = .char '-' :: body := by
          cases run with
          | nil =>
              simp only [ht, List.singleton_append, List.cons.injEq, true_and] at hs
              exact absurd (by decide) (hrest (.char '-') (by simp [hs]))
          | cons d body =>
              simp only [ht, List.cons_append, List.cons.injEq, true_and] at hs
              exact ⟨body, by rw [hs.1]⟩
        exact ⟨body, ht, fun d hd => by simpa [inLine] using hrun d (by simp [hd]),
          fun d hd => by simpa [inLine] using hrest d hd⟩
      · rintro ⟨body, ht, hbody, hrest⟩
        refine ⟨.char '-' :: body, ht, fun d hd => ?_, fun d hd => by
          simpa [inLine] using hrest d hd⟩
        rcases List.mem_cons.1 hd with rfl | hd
        · decide
        · simpa [inLine] using hbody d hd
  | blockComment =>
      simp only [Rule.begins, beq_iff_eq] at h
      subst h
      exact blockComment_eq_iff
  | word =>
      have hpart := isWordPart_of_isLetter h
      exact runOf_begin_eq_iff hpart h
  | number =>
      have hpart := isNumberPart_of_isDigit h
      exact runOf_begin_eq_iff hpart h
  | string =>
      simp only [Rule.begins, beq_iff_eq] at h
      subst h
      exact stringLiteral_eq_iff
  | twoCharacters =>
      obtain ⟨a, b, symbol, hmem, rfl, hd⟩ := Rule.begins_twoCharacters_iff.1 h
      obtain ⟨s, rfl⟩ : ∃ s', s = .char b :: s' := by
        cases s with
        | nil => cases hd
        | cons d s' => exact ⟨s', by simpa using hd⟩
      have hsymbol : doubleOperator? (.char a) (.char b) = some symbol :=
        doubleOperator?_eq_some_iff.2 ⟨a, b, hmem, rfl, rfl⟩
      rw [Rule.take, shortItem, hsymbol]
      constructor
      · intro hcut
        cases hcut
        exact ⟨rfl, a, b, symbol, hmem, rfl⟩
      · rintro ⟨hs, a', b', symbol', hmem', rfl⟩
        simp only [List.cons_append, List.nil_append, List.cons.injEq] at hs
        obtain ⟨ha, hb, rfl⟩ := hs
        have hsymbol' := doubleOperator?_eq_some_iff.2 ⟨a', b', hmem', rfl, rfl⟩
        rw [ha, hb, hsymbol] at hsymbol'
        cases hsymbol'
        rw [ha, hb]
  | oneCharacter =>
      obtain ⟨a, item, hmem, rfl⟩ := Rule.begins_oneCharacter_iff.1 h
      rw [Rule.take, singleItem_of_mem _ hmem, single_eq_iff]
      refine and_congr_right fun hs => ⟨?_, ?_⟩
      · rintro rfl
        exact ⟨a, item, hmem, rfl⟩
      · rintro ⟨a', item', hmem', rfl⟩
        simp only [List.singleton_append, List.cons.injEq] at hs
        have hitem : item' = item := by
          have hmem := singleItem_of_mem _ hmem
          rw [← hs.1, singleItem_of_mem _ hmem'] at hmem
          exact hmem
        rw [hitem, hs.1]
  | unknown =>
      rw [Rule.take, single_eq_iff]
      refine and_congr_right fun hs => ⟨?_, ?_⟩
      · rintro rfl
        exact ⟨c, rfl⟩
      · rintro ⟨d, rfl⟩
        simp only [List.singleton_append, List.cons.injEq] at hs
        rw [hs.1]

/-- **The reference agrees with `first`.**  So exactly one segment is selected at the start of a
text, and none where the text is empty. -/
theorem selected_iff {segment : Segment} {rest : Text} :
    Selected segment rest ↔
      ∃ c s, segment.text ++ rest = c :: s ∧ first c s = (segment, rest) := by
  constructor
  · rintro ⟨rule, hrule, htakes⟩
    have hbegins := Rule.begins_of_inCharge? hrule
    cases htext : segment.text ++ rest with
    | nil => rw [htext] at hbegins; cases rule <;> cases hbegins
    | cons c s =>
        rw [htext] at hrule hbegins
        refine ⟨c, s, rfl, ?_⟩
        rw [first_eq_take hrule, Rule.take_eq_iff hbegins]
        exact ⟨htext, htakes⟩
  · rintro ⟨c, s, htext, hfirst⟩
    obtain ⟨rule, hrule⟩ := Rule.exists_inCharge? c s
    rw [first_eq_take hrule, Rule.take_eq_iff (Rule.begins_of_inCharge? hrule)] at hfirst
    exact ⟨rule, htext ▸ hrule, hfirst.2⟩

/-- A selected segment is not empty. -/
lemma Selected.ne_nil {segment : Segment} {rest : Text} (h : Selected segment rest) :
    segment.text ≠ [] := by
  obtain ⟨c, s, -, hfirst⟩ := selected_iff.1 h
  have := first_text_ne_nil c s
  rwa [hfirst] at this

/-- **The item of a selected segment fits it.**  Each rule gives items of a few kinds only, so the
item alone tells the shape. -/
lemma Selected.fits {segment : Segment} {rest : Text} (h : Selected segment rest) :
    segment.item.Fits segment.text rest := by
  obtain ⟨rule, -, htakes⟩ := h
  obtain ⟨item, text⟩ := segment
  cases rule with
  | blank | lineComment | word | number =>
      obtain ⟨rfl, hshape⟩ := htakes
      exact hshape
  | blockComment =>
      obtain ⟨body, hbody, h | ⟨h, hrest⟩⟩ := htakes <;> cases h
      · exact ⟨body, hbody, rfl⟩
      · exact ⟨body, hbody, rfl, hrest⟩
  | string =>
      obtain ⟨content, ⟨h, hrest⟩ | ⟨h, hrest⟩⟩ := htakes <;> cases h
      · exact ⟨content, rfl, hrest⟩
      · exact ⟨content, rfl, hrest⟩
  | twoCharacters =>
      obtain ⟨a, b, symbol, hmem, h⟩ := htakes
      cases h
      exact .inl ⟨a, b, hmem, rfl⟩
  | oneCharacter =>
      obtain ⟨a, item', hmem, h⟩ := htakes
      cases h
      cases item with
      | operator symbol => exact .inr ⟨a, hmem, rfl⟩
      | delimiter symbol => exact ⟨a, hmem, rfl⟩
      | blank | lineComment | blockComment | word | number | string | fault =>
          simp [oneCharacterItems] at hmem
  | unknown =>
      obtain ⟨c, h⟩ := htakes
      cases h
      rfl

/-- A fault is reported for one character, or for all that is left. -/
lemma Selected.of_fault {segment : Segment} {rest : Text} (h : Selected segment rest)
    {diagnostic : Diagnostic} (hitem : segment.item = .fault diagnostic) :
    (∃ c, diagnostic = .invalidCharacter c ∧ segment.text = [c]) ∨
      (diagnostic = .unclosedComment ∨ diagnostic = .unclosedString) ∧ rest = [] := by
  have hfits := h.fits
  rw [hitem] at hfits
  cases diagnostic with
  | invalidCharacter c => exact .inl ⟨c, rfl, hfits⟩
  | unclosedComment =>
      obtain ⟨_, -, -, hrest⟩ := hfits
      exact .inr ⟨.inl rfl, hrest⟩
  | unclosedString =>
      obtain ⟨_, -, hrest⟩ := hfits
      exact .inr ⟨.inr rfl, hrest⟩

/-! ## How far the rules look

Whether an item begins is decided by two characters, and where it ends by the item itself and the
one character after it.  So what stands further on can be changed without changing the selection. -/

/-- An item that begins still begins when the text is made longer at its end. -/
lemma Rule.begins_append {rule : Rule} {text : Text} (t : Text) (h : rule.begins text = true) :
    rule.begins (text ++ t) = true := by
  cases text with
  | nil => cases rule <;> cases h
  | cons c s =>
      cases s with
      | nil => cases rule <;> simp_all [Rule.begins]
      | cons d s => cases rule <;> simp_all [Rule.begins]

/-- Two characters decide what begins. -/
lemma Rule.begins_append_of_length {rule : Rule} {text : Text} (t : Text) (h : 2 ≤ text.length) :
    rule.begins (text ++ t) = rule.begins text := by
  match text, h with
  | c :: d :: s, _ => cases rule <;> simp [Rule.begins]

/-- What a rule takes begins as it should. -/
lemma Rule.Takes.begins {rule : Rule} {segment : Segment} {rest : Text}
    (h : rule.Takes segment rest) : rule.begins (segment.text ++ rest) = true := by
  cases rule with
  | blank => obtain ⟨-, c, hc, ht⟩ := h; simpa [ht, Rule.begins] using hc
  | lineComment => obtain ⟨-, body, ht, -⟩ := h; simp [ht, Rule.begins]
  | blockComment => obtain ⟨body, -, rfl | ⟨rfl, -⟩⟩ := h <;> simp [Rule.begins]
  | word => obtain ⟨-, c, run, ht, hc, -⟩ := h; simpa [ht, Rule.begins] using hc
  | number => obtain ⟨-, c, run, ht, hc, -⟩ := h; simpa [ht, Rule.begins] using hc
  | string => obtain ⟨content, ⟨rfl, -⟩ | ⟨rfl, -⟩⟩ := h <;> simp [Rule.begins, quote]
  | twoCharacters =>
      obtain ⟨a, b, symbol, hmem, rfl⟩ := h
      exact Rule.begins_twoCharacters_iff.2 ⟨a, b, symbol, hmem, rfl, rfl⟩
  | oneCharacter =>
      obtain ⟨a, item, hmem, rfl⟩ := h
      exact Rule.begins_oneCharacter_iff.2 ⟨a, item, hmem, rfl⟩
  | unknown => obtain ⟨c, rfl⟩ := h; rfl

lemma LongestRun.extend {p : CodePoint → Prop} {run rest : Text} (h : LongestRun p run rest)
    (hrest : rest ≠ []) (t : Text) : LongestRun p run (rest ++ t) :=
  ⟨h.1, by rw [List.head?_append_of_ne_nil rest hrest]; exact h.2⟩

lemma LongestRun.restrict {p : CodePoint → Prop} {run rest t : Text}
    (h : LongestRun p run (rest ++ t)) : LongestRun p run rest :=
  ⟨h.1, fun c hc => h.2 c (by rw [List.head?_append, Option.mem_def.1 hc]; rfl)⟩

lemma Rule.Takes.extend {rule : Rule} {segment : Segment} {rest : Text}
    (h : rule.Takes segment rest) (hrest : rest ≠ []) (t : Text) :
    rule.Takes segment (rest ++ t) := by
  cases rule with
  | lineComment =>
      obtain ⟨hitem, body, ht, hbody⟩ := h
      exact ⟨hitem, body, ht, hbody.extend hrest t⟩
  | blockComment =>
      obtain ⟨body, hb, hclosed | ⟨-, hnil⟩⟩ := h
      · exact ⟨body, hb, .inl hclosed⟩
      · exact absurd hnil hrest
  | word =>
      obtain ⟨hitem, c, run, ht, hc, hrun⟩ := h
      exact ⟨hitem, c, run, ht, hc, hrun.extend hrest t⟩
  | number =>
      obtain ⟨hitem, c, run, ht, hc, hrun⟩ := h
      exact ⟨hitem, c, run, ht, hc, hrun.extend hrest t⟩
  | string =>
      obtain ⟨content, ⟨hclosed, hr⟩ | ⟨-, hnil⟩⟩ := h
      · exact ⟨content, .inl ⟨hclosed, by rwa [List.head?_append_of_ne_nil rest hrest]⟩⟩
      · exact absurd hnil hrest
  | blank | twoCharacters | oneCharacter | unknown => exact h

lemma Rule.Takes.restrict {rule : Rule} {segment : Segment} {rest t : Text}
    (h : rule.Takes segment (rest ++ t)) : rule.Takes segment rest := by
  cases rule with
  | lineComment =>
      obtain ⟨hitem, body, ht, hbody⟩ := h
      exact ⟨hitem, body, ht, hbody.restrict⟩
  | blockComment =>
      obtain ⟨body, hb, hclosed | ⟨hopen, hnil⟩⟩ := h
      · exact ⟨body, hb, .inl hclosed⟩
      · exact ⟨body, hb, .inr ⟨hopen, (List.append_eq_nil_iff.1 hnil).1⟩⟩
  | word =>
      obtain ⟨hitem, c, run, ht, hc, hrun⟩ := h
      exact ⟨hitem, c, run, ht, hc, hrun.restrict⟩
  | number =>
      obtain ⟨hitem, c, run, ht, hc, hrun⟩ := h
      exact ⟨hitem, c, run, ht, hc, hrun.restrict⟩
  | string =>
      obtain ⟨content, ⟨hclosed, hr⟩ | ⟨hopen, hnil⟩⟩ := h
      · refine ⟨content, .inl ⟨hclosed, fun hq => hr ?_⟩⟩
        rw [List.head?_append, hq]
        rfl
      · exact ⟨content, .inr ⟨hopen, (List.append_eq_nil_iff.1 hnil).1⟩⟩
  | blank | twoCharacters | oneCharacter | unknown => exact h

/-- **A selection does not depend on what comes later.**  Where a text goes on after the selected
segment, it may be made longer at its end. -/
theorem Selected.extend {segment : Segment} {rest : Text} (h : Selected segment rest)
    (hrest : rest ≠ []) (t : Text) : Selected segment (rest ++ t) := by
  obtain ⟨rule, hrule, htakes⟩ := h
  have htakes' := htakes.extend hrest t
  have hlength : 2 ≤ (segment.text ++ rest).length := by
    have h₁ := List.length_pos_iff.2 (Selected.ne_nil ⟨rule, hrule, htakes⟩)
    have h₂ := List.length_pos_iff.2 hrest
    rw [List.length_append]
    omega
  refine ⟨rule, Rule.inCharge?_of_imp hrule (fun r hr => ?_) htakes'.begins, htakes'⟩
  rwa [← List.append_assoc, Rule.begins_append_of_length t hlength] at hr

/-- **A selection survives a cut behind it.** -/
theorem Selected.restrict {segment : Segment} {rest t : Text} (h : Selected segment (rest ++ t)) :
    Selected segment rest := by
  obtain ⟨rule, hrule, htakes⟩ := h
  refine ⟨rule, Rule.inCharge?_of_imp hrule (fun r hr => ?_) htakes.restrict.begins,
    htakes.restrict⟩
  rw [← List.append_assoc]
  exact Rule.begins_append t hr

end SqlFrontEnd.Lexing
