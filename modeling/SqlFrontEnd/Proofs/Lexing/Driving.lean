import Mathlib
import SqlFrontEnd.Lexing.Cursor
import SqlFrontEnd.Proofs.Lexing.Position

/-!
# Driving a cursor

A cursor can be given any commands in any order, also rules that do not fit the character they
start at.  Whatever is done to it, it knows its place: `Located` says that the line and the column
it carries are those of its offset.

* `perform_cases` — what a single command can do: leave the cursor as it is, move it over a text,
  or take a segment, in both cases a piece of what it has not passed.
* `Located.perform`, `Precedes` — what a command preserves, and what it only adds to.
* **`drive_located`** — the same for every sequence of commands.
-/

namespace SqlFrontEnd.Cursor

open Lexing Place

variable {policy : KeywordCase} {source : Text} {c d : Cursor}

/-- Performs commands one after the other and keeps the state. -/
def drive (policy : KeywordCase) (commands : List Command) (c : Cursor) : Cursor :=
  commands.foldl (fun c command => (c.perform policy command).2) c

/-- A cursor on a source knows its place: its line and its column are those of its offset. -/
structure Located (source : Text) (c : Cursor) : Prop where
  source_eq : c.source = source
  offset_le : c.offset ≤ source.length
  line_eq : c.place.line = 1 + (source.take c.offset).count (.char '\n')
  column_eq : c.place.column + lineStart (source.take c.offset) = 1 + c.offset

/-- The tokens of one state begin those of another, and a halted cursor stays halted. -/
def Precedes (c d : Cursor) : Prop := c.tokens <+: d.tokens ∧ (c.halted = true → d.halted = true)

/-! ## What a command does -/

/-- **What a single command can do.**  It leaves the cursor as it is, and has failed only where no
character was left; or it moves over a text; or it takes a segment.  Neither goes past what the
cursor had before it. -/
lemma perform_cases {command : Command} (policy : KeywordCase) (hrun : command ≠ .run)
    (c : Cursor) :
    (∃ reply, c.perform policy command = (reply, c) ∧ (reply = .pastEnd → c.rest = [])) ∨
      (∃ text x, text <+: c.rest ∧ c.perform policy command = (.character x, c.move text)) ∨
        ∃ segment, segment.text <+: c.rest ∧
          c.perform policy command = (.done, c.take policy segment) := by
  -- a rule that consumes its first character whatever it is
  have hfirst : ∀ (rule : CodePoint → Text → Segment × Text),
      (∀ x s, (rule x s).1.text ++ (rule x s).2 = x :: s) →
      (c.rest = [] ∧ c.orPastEnd (c.takeFirst policy rule) = (.pastEnd, c)) ∨
        ∃ segment, segment.text <+: c.rest ∧
          c.orPastEnd (c.takeFirst policy rule) = (.done, c.take policy segment) := by
    intro rule hrule
    cases hrest : c.rest with
    | nil => exact .inl ⟨rfl, by simp [takeFirst, hrest, orPastEnd]⟩
    | cons x s =>
        exact .inr ⟨(rule x s).1, ⟨_, hrule x s⟩, by simp [takeFirst, hrest, orPastEnd]⟩
  -- a rule that takes a run, be it empty
  have htakeRun : ∀ (item : Item) (p : CodePoint → Bool),
      (runOf item p c.rest).1.text <+: c.rest := fun item p => ⟨_, runOf_append item p c.rest⟩
  cases command with
  | run => exact absurd rfl hrun
  | scan =>
      obtain ⟨hrest, h⟩ | h := hfirst first first_append
      · exact .inl ⟨_, h, fun _ => hrest⟩
      · exact .inr (.inr h)
  | blockComment =>
      obtain ⟨hrest, h⟩ | h := hfirst Lexing.blockComment blockComment_append
      · exact .inl ⟨_, h, fun _ => hrest⟩
      · exact .inr (.inr h)
  | string =>
      obtain ⟨hrest, h⟩ | h := hfirst stringLiteral stringLiteral_append
      · exact .inl ⟨_, h, fun _ => hrest⟩
      · exact .inr (.inr h)
  | advance =>
      cases hrest : c.rest with
      | nil => exact .inl ⟨.pastEnd, by simp [perform, hrest], fun _ => rfl⟩
      | cons x s => exact .inr (.inl ⟨[x], some x, ⟨s, rfl⟩, by simp [perform, hrest]⟩)
  | current => exact .inl ⟨_, rfl, by simp⟩
  | peek => exact .inl ⟨_, rfl, by simp⟩
  | atEnd => exact .inl ⟨_, rfl, by simp⟩
  | lineComment => exact .inr (.inr ⟨_, htakeRun .lineComment inLine, rfl⟩)
  | word => exact .inr (.inr ⟨_, htakeRun .word isWordPart, rfl⟩)
  | number => exact .inr (.inr ⟨_, htakeRun .number isNumberPart, rfl⟩)

/-- What holds of a cursor and is kept by every scan holds after a run. -/
lemma run_of_scan {motive : Cursor → Prop} (policy : KeywordCase) (h : motive c)
    (hscan : ∀ c x s, motive c → c.rest = x :: s → motive (c.take policy (first x s).1)) :
    motive (c.run policy) := by
  fun_induction run policy c with
  | case1 c _ => exact h
  | case2 c _ _ => exact h
  | case3 c _ x s hrest ih => exact ih (hscan c x s h hrest)

/-! ## What commands preserve -/

/-- The place of a located cursor is the one that its offset has in the source. -/
lemma located_iff : c.Located source ↔
    c.source = source ∧ c.offset ≤ source.length ∧
      c.place = Place.start.after (source.take c.offset) := by
  have hle (h : c.offset ≤ source.length) : lineStart (source.take c.offset) ≤ c.offset := by
    have := lineStart_le_length (source.take c.offset)
    rwa [List.length_take, Nat.min_eq_left h] at this
  constructor
  · rintro ⟨hsource, hoffset, hline, hcolumn⟩
    refine ⟨hsource, hoffset, ?_⟩
    have hstart := hle hoffset
    rw [← placeAt_eq hoffset, placeAt, ← hline]
    have hcolumn' : c.place.column = 1 + (c.offset - lineStart (source.take c.offset)) := by omega
    rw [← hcolumn']
  · rintro ⟨hsource, hoffset, hplace⟩
    have hstart := hle hoffset
    rw [← placeAt_eq hoffset, placeAt] at hplace
    refine ⟨hsource, hoffset, by rw [hplace], ?_⟩
    rw [hplace]
    show 1 + (c.offset - _) + _ = 1 + c.offset
    omega

lemma located_start (source : Text) : (start source).Located source :=
  located_iff.2 ⟨rfl, Nat.zero_le _, rfl⟩

/-- Moving over a piece of what is left keeps a cursor located, whatever else changes. -/
lemma Located.move (h : c.Located source) {text : Text} (htext : text <+: c.rest) :
    (c.move text).Located source := by
  obtain ⟨rfl, hoffset, hplace⟩ := located_iff.1 h
  obtain ⟨tail, htail⟩ := htext
  have hsource : c.source = c.source.take c.offset ++ (text ++ tail) := by
    rw [htail, rest, List.take_append_drop]
  have hlength : (c.source.take c.offset).length = c.offset := List.length_take_of_le hoffset
  have htake : c.source.take (c.offset + text.length) = c.source.take c.offset ++ text := by
    conv_lhs => rw [hsource, ← List.append_assoc]
    exact List.take_left' (by rw [List.length_append, hlength])
  refine located_iff.2 ⟨rfl, ?_, ?_⟩
  · have := congrArg List.length hsource
    simp only [List.length_append, hlength] at this
    show c.offset + text.length ≤ c.source.length
    omega
  · show c.place.after text = Place.start.after (c.source.take (c.offset + text.length))
    rw [htake, after_append, hplace]

lemma Located.take (h : c.Located source) {segment : Segment} (htext : segment.text <+: c.rest) :
    (c.take policy segment).Located source := by
  obtain ⟨hsource, hoffset, hline, hcolumn⟩ := h.move htext
  exact ⟨hsource, hoffset, hline, hcolumn⟩

/-- **Every command keeps a cursor located.** -/
lemma Located.perform (h : c.Located source) (policy : KeywordCase) (command : Command) :
    (c.perform policy command).2.Located source := by
  by_cases hrun : command = .run
  · subst hrun
    exact run_of_scan policy h fun c x s hc hrest => hc.take (hrest ▸ ⟨_, first_append x s⟩)
  · obtain ⟨reply, hc, -⟩ | ⟨text, x, htext, hc⟩ | ⟨segment, htext, hc⟩ :=
      perform_cases policy hrun c
    · rwa [hc]
    · rw [hc]; exact h.move htext
    · rw [hc]; exact h.take htext

lemma Precedes.refl (c : Cursor) : c.Precedes c := ⟨List.prefix_rfl, id⟩

lemma Precedes.trans {e : Cursor} (h : c.Precedes d) (h' : d.Precedes e) : c.Precedes e :=
  ⟨h.1.trans h'.1, h'.2 ∘ h.2⟩

lemma precedes_take (policy : KeywordCase) (c : Cursor) (segment : Segment) :
    c.Precedes (c.take policy segment) :=
  ⟨List.prefix_append _ _, fun h => by simp [Cursor.take, h]⟩

/-- **No command takes a token back or lets a halted cursor go on.** -/
lemma precedes_perform (policy : KeywordCase) (command : Command) (c : Cursor) :
    c.Precedes (c.perform policy command).2 := by
  by_cases hrun : command = .run
  · subst hrun
    refine run_of_scan (motive := c.Precedes) policy (.refl c) fun d x s hd _ => ?_
    exact hd.trans (precedes_take policy d _)
  · obtain ⟨reply, hc, -⟩ | ⟨text, x, -, hc⟩ | ⟨segment, -, hc⟩ := perform_cases policy hrun c
    · rw [hc]; exact .refl c
    · rw [hc]; exact .refl c
    · rw [hc]; exact precedes_take policy c segment

lemma precedes_drive (policy : KeywordCase) (commands : List Command) (c : Cursor) :
    c.Precedes (c.drive policy commands) := by
  induction commands generalizing c with
  | nil => exact .refl c
  | cons command commands ih => exact (precedes_perform policy command c).trans (ih _)

lemma Located.drive (h : c.Located source) (policy : KeywordCase) (commands : List Command) :
    (c.drive policy commands).Located source := by
  induction commands generalizing c with
  | nil => exact h
  | cons command commands ih => exact ih (h.perform policy command)

/-! ## What a command adds -/

/-- A located cursor that has no text left stands at the end of the source. -/
lemma Located.offset_eq_length (h : c.Located source) (hrest : c.rest = []) :
    c.offset = source.length := by
  obtain ⟨rfl, hoffset, -⟩ := located_iff.1 h
  have := List.drop_eq_nil_iff.1 hrest
  omega

/-- What a located cursor takes next is what the source has between the two offsets. -/
lemma Located.slice_eq (h : c.Located source) {text : Text} (htext : text <+: c.rest) :
    (source.take (c.offset + text.length)).drop c.offset = text := by
  obtain ⟨rfl, -, -⟩ := located_iff.1 h
  rw [List.drop_take, Nat.add_sub_cancel_left]
  exact (List.prefix_iff_eq_take.1 htext).symm

/-- A single command adds at most one token, which tells the place of the cursor before the command
and, unless it reports a fault, the text that the cursor has passed. -/
lemma Located.added (h : c.Located source) {command : Command} (policy : KeywordCase)
    (hrun : command ≠ .run) :
    ∃ added : Option Token,
      (c.perform policy command).2.tokens = c.tokens ++ added.toList ∧
        ∀ t ∈ added, t.line = c.place.line ∧ t.column = c.place.column ∧
          (t.isError = false → t.lexeme =
            (source.take (c.perform policy command).2.offset).drop c.offset) := by
  obtain ⟨reply, hc, -⟩ | ⟨text, x, -, hc⟩ | ⟨segment, htext, hc⟩ := perform_cases policy hrun c
  · exact ⟨none, by simp [hc], by simp⟩
  · exact ⟨none, by simp [hc, Cursor.move], by simp⟩
  · rw [hc]
    refine ⟨segment.token? policy c.place, rfl, fun t ht => ?_⟩
    obtain ⟨hline, hcolumn, hlexeme⟩ := place_of_mem_token? ht
    refine ⟨hline, hcolumn, fun hfault => ?_⟩
    rw [hlexeme hfault]
    exact (h.slice_eq htext).symm

/-- A command fails only where no character is left, and then changes nothing. -/
lemma eq_of_pastEnd {command : Command} (h : (c.perform policy command).1 = .pastEnd) :
    c.rest = [] ∧ (c.perform policy command).2 = c := by
  by_cases hrun : command = .run
  · subst hrun; cases h
  · obtain ⟨reply, hc, hreply⟩ | ⟨text, x, -, hc⟩ | ⟨segment, -, hc⟩ :=
      perform_cases policy hrun c
    · rw [hc] at h ⊢; exact ⟨hreply h, rfl⟩
    · rw [hc] at h; cases h
    · rw [hc] at h; cases h

/-- **A cursor knows its place, however it is driven.**  In every state that any commands lead to,
the offset lies in the source and the line and the column are those of the offset; what comes later
only adds tokens and never lifts a halt.  A single command adds at most one token, with the place
of the cursor before it and the text that was passed, and fails only at the end of the source,
leaving everything as it was. -/
theorem drive_located (policy : KeywordCase) (source : Text) (earlier later : List Command) :
    let c := (start source).drive policy earlier
    c.Located source ∧ c.Precedes (c.drive policy later) ∧
      ∀ command : Command,
        let reply := (c.perform policy command).1
        let d := (c.perform policy command).2
        (command ≠ .run → ∃ added : Option Token, d.tokens = c.tokens ++ added.toList ∧
          ∀ t ∈ added, t.line = c.place.line ∧ t.column = c.place.column ∧
            (t.isError = false → t.lexeme = (source.take d.offset).drop c.offset)) ∧
        (reply = .pastEnd → c.offset = source.length ∧ d = c) := by
  intro c
  have hc : c.Located source := (located_start source).drive policy earlier
  refine ⟨hc, precedes_drive policy later c, fun command => ⟨fun hrun => ?_, fun hreply => ?_⟩⟩
  · exact hc.added policy hrun
  · obtain ⟨hrest, hd⟩ := eq_of_pastEnd hreply
    exact ⟨hc.offset_eq_length hrest, hd⟩

end SqlFrontEnd.Cursor
