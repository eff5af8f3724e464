import Mathlib
import SqlFrontEnd.Proofs.Lexing.Driving
import SqlFrontEnd.Proofs.Lexing.Reference

/-!
# Progress

Every loop of a reading ends, since every round that is not the last one moves the cursor.  For the
loop that scans item after item this takes an argument: a word or a number that is begun at a
character which does not fit takes nothing, but a scan begins one only at a letter or a digit, and
these are characters that go on with it.

A loop is told here round by round, with a limit on the rounds.  That a loop ends within the limit
is the statement; what it comes to is what the cursor does in one go.

* `Round`, `loopWithin` — a loop, and its end within a number of rounds.
* `scanRound`, `Command.loop?` — the loop of a run, and the loops within the rules.
* `loopWithin_eq` — a loop whose rounds shorten the rest ends within as many rounds as characters
  are left.
* `Located.scan`, `loopWithin_scanRound`, `exists_loopWithin_loop` — a single scan, a run, and the
  rules.
* **`drive_progress`** — all of it, in every state that a cursor can be driven to.
-/

namespace SqlFrontEnd

open Lexing

namespace Cursor

/-! ## Loops -/

/-- What a round of a loop comes to. -/
inductive Round where
  /-- The loop goes on from here. -/
  | again (c : Cursor)
  /-- The loop ends here. -/
  | ends (c : Cursor)
  /-- There was no character where one was needed. -/
  | fails

/-- Where a loop ends, if it does so without failing and goes on no more often than the limit
allows. -/
def loopWithin (round : Cursor → Round) (limit : ℕ) (c : Cursor) : Option Cursor :=
  match round c with
  | .ends d => some d
  | .fails => none
  | .again d =>
    match limit with
    | 0 => none
    | limit + 1 => loopWithin round limit d

/-- A round of a run: a scan, unless the cursor is halted or stands at the end. -/
def scanRound (policy : KeywordCase) (c : Cursor) : Round :=
  if c.halted || c.rest.isEmpty then .ends c else (c.scan policy).elim .fails .again

/-- A round of a rule that takes the longest run of a class: a character of the class. -/
def runRound (p : CodePoint → Bool) (c : Cursor) : Round :=
  match c.rest with
  | [] => .ends c
  | x :: _ => if p x then .again (c.move [x]) else .ends c

/-- A round of the rule for block comments: a character, which ends the comment if it is the
mark. -/
def markRound (c : Cursor) : Round :=
  match c.rest with
  | [] => .ends c
  | x :: _ => if x = '#' then .ends (c.move [x]) else .again (c.move [x])

/-- A round of the rule for literals: a doubled quote, or a character, which ends the literal if it
is a quote. -/
def quoteRound (c : Cursor) : Round :=
  match c.rest with
  | [] => .ends c
  | x :: s =>
    if x = '\'' then
      if s.head? = some (.char '\'') then .again (c.move ['\'', '\'']) else .ends (c.move [x])
    else .again (c.move [x])

end Cursor

/-- The loop within a rule: how many characters the rule takes before it, and its rounds. -/
structure Loop where
  opening : ℕ
  round : Cursor → Cursor.Round

open Cursor in
/-- The loop within a rule that can be commanded. -/
def Command.loop? : Command → Option Loop
  | .lineComment => some ⟨0, runRound inLine⟩
  | .word => some ⟨0, runRound isWordPart⟩
  | .number => some ⟨0, runRound isNumberPart⟩
  | .blockComment => some ⟨1, markRound⟩
  | .string => some ⟨1, quoteRound⟩
  | .scan | .run | .advance | .current | .peek | .atEnd => none

namespace Cursor

variable {policy : KeywordCase} {source : Text} {c d : Cursor} {limit : ℕ}

/-! ## Where loops end -/

/-- **A loop whose rounds shorten the rest** ends within as many rounds as characters are left, at
what all its rounds agree on. -/
lemma loopWithin_eq {round : Cursor → Round} {f : Cursor → Cursor}
    (hround : ∀ c, round c = .ends (f c) ∨
      ∃ d, round c = .again d ∧ d.rest.length < c.rest.length ∧ f d = f c)
    (hlimit : c.rest.length ≤ limit) : loopWithin round limit c = some (f c) := by
  induction limit generalizing c with
  | zero =>
      obtain hends | ⟨d, -, hshorter, -⟩ := hround c
      · rw [loopWithin, hends]
      · omega
  | succ limit ih =>
      obtain hends | ⟨d, hagain, hshorter, hagree⟩ := hround c
      · rw [loopWithin, hends]
      · rw [loopWithin, hagain, ← hagree]
        exact ih (by omega)

@[simp] lemma rest_move (c : Cursor) (text : Text) :
    (c.move text).rest = c.rest.drop text.length := by
  simp [move, rest, List.drop_drop]

@[simp] lemma move_move (c : Cursor) (s t : Text) : (c.move s).move t = c.move (s ++ t) := by
  simp [move, Nat.add_assoc]

@[simp] lemma move_nil (c : Cursor) : c.move [] = c := rfl

/-- **A run ends** within as many scans as characters are left. -/
lemma loopWithin_scanRound (hlimit : c.rest.length ≤ limit) :
    loopWithin (scanRound policy) limit c = some (c.run policy) := by
  refine loopWithin_eq (fun c => ?_) hlimit
  cases hhalted : c.halted with
  | true => exact .inl (by rw [scanRound, run, hhalted]; rfl)
  | false =>
      cases hrest : c.rest with
      | nil => exact .inl (by rw [scanRound, run, hhalted, hrest]; rfl)
      | cons x s =>
          refine .inr ⟨c.take policy (first x s).1, ?_, hrest ▸ length_rest_take_lt hrest, ?_⟩
          · rw [scanRound, hhalted, hrest, scan, takeFirst, hrest]
            rfl
          · conv_rhs => rw [run, hhalted, hrest]
            rfl

/-- A loop whose rounds pass what a function of the rest says ends behind all of that. -/
lemma loopWithin_move {round : Cursor → Round} {passed : Text → Text}
    (hround : ∀ c, round c = .ends (c.move (passed c.rest)) ∨
      ∃ taken s, taken ≠ [] ∧ c.rest = taken ++ s ∧ passed c.rest = taken ++ passed s ∧
        round c = .again (c.move taken))
    (hlimit : c.rest.length ≤ limit) :
    loopWithin round limit c = some (c.move (passed c.rest)) := by
  refine loopWithin_eq (f := fun c => c.move (passed c.rest)) (fun c => ?_) hlimit
  refine (hround c).imp_right ?_
  rintro ⟨taken, s, hne, hrest, hpassed, hagain⟩
  have hrest' : (c.move taken).rest = s := by rw [rest_move, hrest, List.drop_left]
  refine ⟨_, hagain, ?_, ?_⟩
  · have := List.length_pos_iff.2 hne
    rw [hrest', hrest, List.length_append]
    omega
  · rw [hrest', move_move, hpassed]

lemma loopWithin_runRound (p : CodePoint → Bool) (hlimit : c.rest.length ≤ limit) :
    loopWithin (runRound p) limit c = some (c.move (c.rest.takeWhile p)) := by
  refine loopWithin_move (fun c => ?_) hlimit
  unfold runRound
  split
  · next hrest => exact .inl (by rw [hrest]; rfl)
  · next x s hrest =>
    rw [hrest]
    split
    · next hx =>
      exact .inr ⟨[x], s, by simp, rfl, List.takeWhile_cons_of_pos hx, rfl⟩
    · next hx => exact .inl (by rw [List.takeWhile_cons_of_neg hx, move_nil])

/-- What a rule takes behind the mark that opens its item: all up to the mark that closes it, or all
that is left. -/
def throughOrAll (through : Text → Option Cut) (s : Text) : Text := (through s).elim s Cut.text

lemma throughOrAll_eq {through : Text → Option Cut} {whole taken s : Text}
    (hwhole : whole = taken ++ s)
    (h : through whole = (through s).map fun cut => ⟨taken ++ cut.text, cut.rest⟩) :
    throughOrAll through whole = taken ++ throughOrAll through s := by
  rw [throughOrAll, throughOrAll, h, hwhole]
  cases through s <;> rfl

lemma loopWithin_markRound (hlimit : c.rest.length ≤ limit) :
    loopWithin markRound limit c = some (c.move (throughOrAll throughMark c.rest)) := by
  refine loopWithin_move (fun c => ?_) hlimit
  unfold markRound
  split
  · next hrest => exact .inl (by rw [hrest]; rfl)
  · next x s hrest =>
    rw [hrest]
    split
    · next hx => exact .inl (by rw [throughOrAll, throughMark, if_pos hx]; rfl)
    · next hx =>
      refine .inr ⟨[x], s, by simp, rfl, throughOrAll_eq rfl ?_, rfl⟩
      rw [throughMark, if_neg hx]
      rfl

lemma loopWithin_quoteRound (hlimit : c.rest.length ≤ limit) :
    loopWithin quoteRound limit c = some (c.move (throughOrAll throughQuote c.rest)) := by
  refine loopWithin_move (fun c => ?_) hlimit
  unfold quoteRound
  split
  · next hrest => exact .inl (by rw [hrest]; rfl)
  · next x s hrest =>
    rw [hrest]
    split_ifs with hx hquote
    · obtain ⟨s, rfl⟩ : ∃ tail, s = .char '\'' :: tail := by
        cases s with
        | nil => cases hquote
        | cons y tail => exact ⟨tail, by rw [Option.some.inj hquote]⟩
      rw [hx]
      refine .inr ⟨['\'', '\''], s, by simp, rfl, throughOrAll_eq rfl ?_, rfl⟩
      exact throughQuote_quote_quote s
    · rw [hx]
      exact .inl (by rw [throughOrAll, throughQuote_quote hquote]; rfl)
    · refine .inr ⟨[x], s, by simp, rfl, throughOrAll_eq rfl ?_, rfl⟩
      exact throughQuote_cons_of_ne hx s

/-- A rule that looks for a closing mark passes its first character and what its loop passes. -/
lemma exists_loopWithin_closing {round : Cursor → Round} {through : Text → Option Cut}
    {rule : CodePoint → Text → Segment × Text} (hnil : through [] = none)
    (hrule : ∀ x s, (rule x s).1.text = x :: throughOrAll through s)
    (hround : ∀ {c : Cursor}, c.rest.length ≤ limit →
      loopWithin round limit c = some (c.move (throughOrAll through c.rest)))
    (hlimit : c.rest.length ≤ limit) :
    ∃ d, loopWithin round limit (c.move (c.rest.take 1)) = some d ∧
      d.offset = (c.orPastEnd (c.takeFirst policy rule)).2.offset ∧
        d.place = (c.orPastEnd (c.takeFirst policy rule)).2.place := by
  refine ⟨_, hround (by rw [rest_move, List.length_drop]; omega), ?_⟩
  rw [rest_move, move_move]
  unfold takeFirst
  split
  · next hrest =>
    rw [hrest, throughOrAll, List.take_nil, List.drop_nil, hnil]
    exact ⟨rfl, rfl⟩
  · next x s hrest =>
    have htext : c.rest.take 1 ++ throughOrAll through (c.rest.drop (c.rest.take 1).length) =
        (rule x s).1.text := by
      rw [hrule, hrest]
      rfl
    rw [htext]
    exact ⟨rfl, rfl⟩

/-- **The loop within a rule ends** where the rule leaves the cursor, within as many rounds as
characters are left. -/
lemma exists_loopWithin_loop {command : Command} {loop : Loop} (hloop : command.loop? = some loop)
    (hlimit : c.rest.length ≤ limit) :
    ∃ d, loopWithin loop.round limit (c.move (c.rest.take loop.opening)) = some d ∧
      d.offset = (c.perform policy command).2.offset ∧
        d.place = (c.perform policy command).2.place := by
  cases command with
  | lineComment | word | number =>
      obtain rfl := Option.some.inj hloop
      exact ⟨_, loopWithin_runRound _ hlimit, rfl, rfl⟩
  | blockComment =>
      obtain rfl := Option.some.inj hloop
      refine exists_loopWithin_closing rfl (fun x s => ?_) loopWithin_markRound hlimit
      unfold Lexing.blockComment throughOrAll
      cases throughMark s <;> rfl
  | string =>
      obtain rfl := Option.some.inj hloop
      refine exists_loopWithin_closing rfl (fun x s => ?_) loopWithin_quoteRound hlimit
      unfold stringLiteral throughOrAll
      cases throughQuote s <;> rfl
  | scan | run | advance | current | peek | atEnd => cases hloop

/-! ## Scans -/

lemma Located.length_rest (h : c.Located source) : c.rest.length = source.length - c.offset := by
  rw [rest, h.source_eq, List.length_drop]

/-- **A scan makes progress**: where a character is left it does not fail, and passes one at
least. -/
lemma Located.scan (h : c.Located source) (policy : KeywordCase)
    (hoffset : c.offset < source.length) :
    ∃ d, c.perform policy .scan = (.done, d) ∧ c.offset < d.offset ∧ d.offset ≤ source.length ∧
      ∃ added : Option Token, d.tokens = c.tokens ++ added.toList ∧
        ∀ t ∈ added, t.isError = false → t.lexeme ≠ [] := by
  obtain ⟨x, s, hrest⟩ : ∃ x s, c.rest = x :: s := by
    refine List.exists_cons_of_ne_nil fun hnil => ?_
    have := h.offset_eq_length hnil
    omega
  have hscan : c.perform policy .scan = (.done, c.take policy (first x s).1) := by
    rw [Cursor.perform, Cursor.scan, takeFirst, hrest]
    rfl
  have hmoved : c.offset < (c.take policy (first x s).1).offset :=
    Nat.lt_add_of_pos_right (List.length_pos_iff.2 (first_text_ne_nil x s))
  have hlocated := h.perform policy .scan
  have hscans : Command.scan ≠ .run := by simp
  obtain ⟨added, htokens, hadded⟩ := h.added policy hscans
  rw [hscan] at hlocated htokens hadded
  refine ⟨_, hscan, hmoved, hlocated.offset_le, added, htokens, fun t ht herror => ?_⟩
  obtain ⟨-, -, hlexeme⟩ := hadded t ht
  rw [hlexeme herror, ← List.length_pos_iff, List.length_drop,
    List.length_take_of_le hlocated.offset_le]
  exact Nat.sub_pos_of_lt hmoved

/-- A run adds no more tokens than characters are left. -/
lemma length_tokens_run_le (policy : KeywordCase) (c : Cursor) :
    (c.run policy).tokens.length ≤ c.tokens.length + c.rest.length := by
  have hrun : (c.run policy).tokens.length + (c.run policy).rest.length ≤
      c.tokens.length + c.rest.length := by
    refine run_of_scan (motive := fun d => d.tokens.length + d.rest.length ≤
      c.tokens.length + c.rest.length) policy le_rfl fun d x s hd hrest => ?_
    have hshorter : (d.take policy (first x s).1).rest.length < d.rest.length :=
      length_rest_take_lt hrest
    have hone : ((first x s).1.token? policy d.place).toList.length ≤ 1 := by
      cases (first x s).1.token? policy d.place <;> simp
    have htokens : (d.take policy (first x s).1).tokens.length =
        d.tokens.length + ((first x s).1.token? policy d.place).toList.length :=
      List.length_append
    omega
  omega

/-- **Every loop ends.**  In every state that any commands lead to, a scan passes at least one
character if one is left, does not fail, and adds one token at most, which has a lexeme of its own
unless it reports a fault.  So a run from there ends within as many scans as characters are left,
and so do the loops within the rules, where the rules leave the cursor.  A source has no more tokens
than characters. -/
theorem drive_progress (policy : KeywordCase) (source : Text) :
    (∀ commands : List Command,
      let c := (start source).drive policy commands
      let left := source.length - c.offset
      (c.offset < source.length →
        ∃ d, c.perform policy .scan = (.done, d) ∧ c.offset < d.offset ∧
          d.offset ≤ source.length ∧
            ∃ added : Option Token, d.tokens = c.tokens ++ added.toList ∧
              ∀ t ∈ added, t.isError = false → t.lexeme ≠ []) ∧
        loopWithin (scanRound policy) left c = some (c.run policy) ∧
        ∀ command loop, Command.loop? command = some loop →
          ∃ d, loopWithin loop.round left (c.move (c.rest.take loop.opening)) = some d ∧
            d.offset = (c.perform policy command).2.offset ∧
              d.place = (c.perform policy command).2.place) ∧
      (tokenize policy source).length ≤ source.length := by
  refine ⟨fun commands => ?states, ?tokens⟩
  case states =>
    have hlocated := (located_start source).drive policy commands
    intro c left
    have hleft : c.rest.length ≤ left := hlocated.length_rest.le
    exact ⟨hlocated.scan policy, loopWithin_scanRound hleft,
      fun command loop hloop => exists_loopWithin_loop hloop hleft⟩
  case tokens =>
    have hrun := length_tokens_run_le policy (start source)
    rw [tokens_run policy (start source) (by simp [HaltedAtEnd, start])] at hrun
    simpa [start, rest, tokenize] using hrun

end Cursor

end SqlFrontEnd
