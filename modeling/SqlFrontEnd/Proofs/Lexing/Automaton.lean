import Mathlib
import SqlFrontEnd.Proofs.Lexing.Fault

/-!
# The sources without faults, by an automaton

Whether a source is free of faults can be seen in one pass over it, one character after the other
and without looking ahead.  An automaton with nine modes does it.  It is in `neutral` mode between
items, and otherwise in the mode of the item that it is in; after a dash or a quote it waits for the
next character to tell what it has seen.

* `Mode`, `Mode.step` — the automaton.  It rejects where there is no next mode.
* `Mode.Continues` — what may follow in a mode: the rest of the item, and then a text without
  faults.  This is where the automaton and the rules of the lexer meet.
* `Mode.continues_cons_iff` — one step of the automaton keeps to it, mode by mode.
* `Mode.accepts_iff` — so a whole run accepts exactly what may follow in its first mode.
* **`hasErrors_eq_false_iff`** — from `neutral` mode, these are the sources without faults.
-/

namespace SqlFrontEnd.Lexing

/-! ## The automaton -/

/-- What the automaton knows about the characters that it has read. -/
inductive Mode where
  | neutral | word | number | minus | bang | line | block | string | quote
deriving DecidableEq, Repr

/-- The operators and delimiters that need no mode of their own. -/
def symbols : List CodePoint :=
  ['=', '>', '<', '+', '*', '/', '(', ')', ',', ';'].map .char

namespace Mode

/-- The mode after the first character of an item. -/
def opened (c : CodePoint) : Option Mode :=
  if c.holds Text.isBlank then some neutral
  else if c = '-' then some minus
  else if c = '#' then some block
  else if c.holds Text.isLetter then some word
  else if c.holds Text.isDigit then some number
  else if c = '\'' then some string
  else if c = '!' then some bang
  else if c ∈ symbols then some neutral
  else none

/-- The mode after one more character, if it is not rejected. -/
def step : Mode → CodePoint → Option Mode
  | neutral, c => opened c
  | word, c => if isWordPart c then some word else opened c
  | number, c => if isNumberPart c then some number else opened c
  | minus, c => if c = '-' then some line else opened c
  | bang, c => if c = '=' then some neutral else none
  | line, c => if c = '\n' then some neutral else some line
  | block, c => if c = '#' then some neutral else some block
  | string, c => if c = '\'' then some quote else some string
  | quote, c => if c = '\'' then some string else opened c

/-- The modes in which a source may end. -/
def isFinal : Mode → Bool
  | bang | block | string => false
  | neutral | word | number | minus | line | quote => true

/-- The automaton reads a text from a mode on without rejecting it, and may end where it is then. -/
def Accepts (mode : Mode) (s : Text) : Prop :=
  ∃ last, s.foldlM step mode = some last ∧ last.isFinal = true

instance (mode : Mode) (s : Text) : Decidable (mode.Accepts s) :=
  decidable_of_iff ((s.foldlM step mode).any isFinal = true) (Option.any_eq_true _ _)

end Mode

/-! ## Texts without faults -/

/-- No segment of the text is a fault. -/
def Faultless (s : Text) : Prop := ∀ segment ∈ segments s, segment.item.isFault = false

lemma faultless_nil : Faultless [] := by
  intro segment hsegment
  rw [segments] at hsegment
  cases hsegment

/-- A text is without faults if its first segment is none and what follows is without faults. -/
lemma faultless_cons_iff {c : CodePoint} {s rest : Text} {segment : Segment}
    (h : first c s = (segment, rest)) :
    Faultless (c :: s) ↔ segment.item.isFault = false ∧ Faultless rest := by
  rw [Faultless, segments, h]
  exact List.forall_mem_cons

/-- What begins no longer item is an operator, a delimiter or a fault. -/
lemma first_eq_shortItem {c : CodePoint} {s : Text} (hblank : c.holds Text.isBlank = false)
    (hline : ¬ (c = '-' ∧ s.head? = some (.char '-'))) (hmark : c ≠ '#')
    (hletter : c.holds Text.isLetter = false) (hdigit : c.holds Text.isDigit = false)
    (hquote : c ≠ '\'') : first c s = shortItem c s := by
  rw [first, if_neg (by simp [hblank]), if_neg hline, if_neg hmark, if_neg (by simp [hletter]),
    if_neg (by simp [hdigit]), if_neg hquote]

lemma first_of_mem_symbols {c : CodePoint} (h : c ∈ symbols) (s : Text) :
    first c s = shortItem c s := by
  have hall : ∀ c ∈ symbols, c.holds Text.isBlank = false ∧ c ≠ '-' ∧ c ≠ '#' ∧
      c.holds Text.isLetter = false ∧ c.holds Text.isDigit = false ∧ c ≠ '\'' := by decide
  obtain ⟨hblank, hdash, hmark, hletter, hdigit, hquote⟩ := hall c h
  exact first_eq_shortItem hblank (fun hline => hdash hline.1) hmark hletter hdigit hquote

lemma faultless_symbol_iff_of_none {c : CodePoint} (h : c ∈ symbols) {s : Text}
    (hnone : ∀ d ∈ s.head?, doubleOperator? c d = none) :
    Faultless (c :: s) ↔ Faultless s := by
  have hsingle : ∀ c ∈ symbols, (singleItem c).isFault = false := by decide
  have hfirst : first c s = (⟨singleItem c, [c]⟩, s) := by
    rw [first_of_mem_symbols h]
    cases s with
    | nil => rfl
    | cons d s => rw [shortItem, hnone d rfl]
  rw [faultless_cons_iff hfirst]
  exact and_iff_right (hsingle c h)

lemma faultless_double_iff {c d : CodePoint} (h : c ∈ symbols) {symbol : Operator}
    (hsymbol : doubleOperator? c d = some symbol) (s : Text) :
    Faultless (c :: d :: s) ↔ Faultless s := by
  have hfirst : first c (d :: s) = (⟨.operator symbol, [c, d]⟩, s) := by
    rw [first_of_mem_symbols h, shortItem, hsymbol]
  rw [faultless_cons_iff hfirst]
  exact and_iff_right rfl

lemma faultless_equal_iff (s : Text) : Faultless (.char '=' :: s) ↔ Faultless s :=
  faultless_symbol_iff_of_none (by decide) fun d _ => by simp [doubleOperator?]

lemma faultless_greater_iff (s : Text) : Faultless (.char '>' :: s) ↔ Faultless s := by
  by_cases h : s.head? = some (.char '=')
  · obtain ⟨s, rfl⟩ := List.head?_eq_some_iff.1 h
    rw [faultless_double_iff (by decide) rfl, faultless_equal_iff]
  · refine faultless_symbol_iff_of_none (by decide) fun d hd => ?_
    have hne : d ≠ .char '=' := by
      rintro rfl
      exact h hd
    simp [doubleOperator?, hne]

/-- **A symbol may be passed by itself**, even where the lexer takes two of them as one operator,
since the second of the two is no fault either. -/
lemma faultless_symbol_iff {c : CodePoint} (h : c ∈ symbols) (s : Text) :
    Faultless (c :: s) ↔ Faultless s := by
  by_cases hnone : ∀ d ∈ s.head?, doubleOperator? c d = none
  · exact faultless_symbol_iff_of_none h hnone
  · push Not at hnone
    obtain ⟨d, hd, hsome⟩ := hnone
    obtain ⟨s, rfl⟩ := List.head?_eq_some_iff.1 hd
    obtain ⟨symbol, hsymbol⟩ := Option.ne_none_iff_exists'.1 hsome
    rw [faultless_double_iff h hsymbol]
    obtain ⟨a, b, hmem, -, rfl⟩ := doubleOperator?_eq_some_iff.1 hsymbol
    have hsecond : ∀ entry ∈ twoCharacterOperators, entry.1.2 = '=' ∨ entry.1.2 = '>' := by decide
    obtain rfl | rfl : b = '=' ∨ b = '>' := hsecond _ hmem
    · exact (faultless_equal_iff s).symm
    · exact (faultless_greater_iff s).symm

/-! ## What may follow in a mode -/

namespace Mode

/-- What may follow in a mode: what is left of the item, and then a text without faults. -/
def Continues : Mode → Text → Prop
  | neutral, s => Faultless s
  | word, s => Faultless (s.dropWhile isWordPart)
  | number, s => Faultless (s.dropWhile isNumberPart)
  | minus, s => if s.head? = some (.char '-') then Faultless (s.dropWhile inLine) else Faultless s
  | bang, s => ∃ rest, s = .char '=' :: rest ∧ Faultless rest
  | line, s => Faultless (s.dropWhile inLine)
  | block, s => ∃ cut, throughMark s = some cut ∧ Faultless cut.rest
  | string, s => ∃ cut, throughQuote s = some cut ∧ Faultless cut.rest
  | quote, s => ∃ cut, throughQuote (.char '\'' :: s) = some cut ∧ Faultless cut.rest

/-- A source may end in the final modes. -/
lemma continues_nil_iff (mode : Mode) : mode.Continues [] ↔ mode.isFinal = true := by
  cases mode <;> simp [Continues, isFinal, faultless_nil, throughMark, throughQuote]

lemma continues_run_iff {mode : Mode} {p : CodePoint → Bool}
    (hmode : ∀ s, mode.Continues s ↔ Faultless (s.dropWhile p)) (c : CodePoint) (s : Text) :
    mode.Continues (c :: s) ↔ if p c then mode.Continues s else Faultless (c :: s) := by
  rw [hmode, hmode, List.dropWhile_cons]
  split <;> rfl

/-! ### After the first character of an item -/

lemma faultless_blank_iff {c : CodePoint} (h : c.holds Text.isBlank = true) (s : Text) :
    Faultless (c :: s) ↔ neutral.Continues s := by
  have hfirst : first c s = (⟨.blank, [c]⟩, s) := if_pos h
  rw [faultless_cons_iff hfirst]
  exact and_iff_right rfl

/-- An item that is a run of a class ends where the class does. -/
lemma faultless_run_iff {c : CodePoint} {s : Text} {item : Item} {p : CodePoint → Bool}
    (hitem : item.isFault = false) (hc : p c = true)
    (hfirst : first c s = runOf item p (c :: s)) :
    Faultless (c :: s) ↔ Faultless (s.dropWhile p) := by
  rw [faultless_cons_iff hfirst]
  simp [Cut.run, hc, hitem]

/-- A dash is an operator, unless it is the first of the two that begin a line comment. -/
lemma faultless_dash_iff (s : Text) : Faultless (.char '-' :: s) ↔ minus.Continues s := by
  have hblank : (CodePoint.char '-').holds Text.isBlank = false := by decide
  by_cases hdash : s.head? = some (.char '-')
  · have hfirst : first (.char '-') s = runOf .lineComment inLine (.char '-' :: s) := by
      rw [first, if_neg (by simp [hblank]), if_pos ⟨rfl, hdash⟩]
    rw [faultless_run_iff rfl (by decide) hfirst, Continues, if_pos hdash]
  · have hfirst : first (.char '-') s = (⟨.operator .minus, [.char '-']⟩, s) := by
      rw [first_eq_shortItem hblank (fun hline => hdash hline.2) (by decide) (by decide)
        (by decide) (by decide)]
      cases s <;> rfl
    rw [faultless_cons_iff hfirst, Continues, if_neg hdash]
    exact and_iff_right rfl

/-- An item that looks for its closing mark is a fault where there is none. -/
lemma faultless_closing_iff {c : CodePoint} {s : Text} {found : Option Cut} {item : Item}
    {diagnostic : Diagnostic} (hitem : item.isFault = false)
    (hfirst : first c s = match found with
      | some cut => (⟨item, c :: cut.text⟩, cut.rest)
      | none => (⟨.fault diagnostic, c :: s⟩, [])) :
    Faultless (c :: s) ↔ ∃ cut, found = some cut ∧ Faultless cut.rest := by
  cases found with
  | none =>
      rw [faultless_cons_iff hfirst]
      simp [Item.isFault]
  | some cut =>
      rw [faultless_cons_iff hfirst]
      simp [hitem]

lemma faultless_mark_iff (s : Text) : Faultless (.char '#' :: s) ↔ block.Continues s := by
  have hfirst : first (.char '#') s = blockComment (.char '#') s := by
    rw [first, if_neg (by decide), if_neg (by simp), if_pos rfl]
  exact faultless_closing_iff rfl hfirst

lemma faultless_quote_iff (s : Text) : Faultless (.char '\'' :: s) ↔ string.Continues s := by
  have hfirst : first (.char '\'') s = stringLiteral (.char '\'') s := by
    rw [first, if_neg (by decide), if_neg (by simp), if_neg (by decide), if_neg (by decide),
      if_neg (by decide), if_pos rfl]
  exact faultless_closing_iff rfl hfirst

/-- A bang is half of an operator or a fault. -/
lemma faultless_bang_iff (s : Text) : Faultless (.char '!' :: s) ↔ bang.Continues s := by
  have hfirst : first (.char '!') s = shortItem (.char '!') s :=
    first_eq_shortItem (by decide) (by simp) (by decide) (by decide) (by decide) (by decide)
  have hfault : (singleItem (.char '!')).isFault = true := by decide
  cases s with
  | nil =>
      rw [faultless_cons_iff hfirst, Continues]
      simp [hfault]
  | cons d s =>
      by_cases hd : d = .char '='
      · subst hd
        have hdouble : shortItem (.char '!') (.char '=' :: s) =
          (⟨.operator .notEqual, [.char '!', .char '=']⟩, s) := rfl
        rw [faultless_cons_iff (hfirst.trans hdouble), Continues]
        simp [Item.isFault]
      · have hsingle : shortItem (.char '!') (d :: s) =
            (⟨singleItem (.char '!'), [.char '!']⟩, d :: s) := by
          simp [shortItem, doubleOperator?, hd]
        rw [faultless_cons_iff (hfirst.trans hsingle), Continues]
        simp [hfault, hd]

/-- What no item begins with is a fault by itself. -/
lemma shortItem_of_not_mem_symbols {c : CodePoint} (hdash : c ≠ '-') (hbang : c ≠ '!')
    (h : c ∉ symbols) (s : Text) :
    shortItem c s = (⟨.fault (.invalidCharacter c), [c]⟩, s) := by
  simp only [symbols, List.map_cons, List.map_nil, List.mem_cons, List.not_mem_nil, or_false,
    not_or] at h
  have htwo : Rule.twoCharacters.begins (c :: s) = false := by
    simp [Rule.begins, twoCharacterOperators, h, hbang]
  have hone : Rule.oneCharacter.begins (c :: s) = false := by
    simp [Rule.begins, oneCharacterItems, h, hdash]
  rw [shortItem_of_not_begins htwo, singleItem_of_not_begins hone]

/-- **An item is opened as its rule begins.**  The tests of the automaton are those of the lexer, in
the same order. -/
lemma faultless_cons_iff_opened (c : CodePoint) (s : Text) :
    Faultless (c :: s) ↔ ∃ mode, opened c = some mode ∧ mode.Continues s := by
  unfold opened
  -- one case for each test of `opened`, in its order, and the last one for what passes none of them
  split_ifs with hblank hdash hmark hletter hdigit hquote hbang hsymbol
  · simpa using faultless_blank_iff hblank s
  · subst hdash
    simpa using faultless_dash_iff s
  · subst hmark
    simpa using faultless_mark_iff s
  · have hpart := isWordPart_of_isLetter hletter
    have hfirst : first c s = runOf .word isWordPart (c :: s) := by
      rw [first, if_neg hblank, if_neg (by simp [hdash]), if_neg hmark, if_pos hletter]
    simpa [Continues] using faultless_run_iff rfl hpart hfirst
  · have hpart := isNumberPart_of_isDigit hdigit
    have hfirst : first c s = runOf .number isNumberPart (c :: s) := by
      rw [first, if_neg hblank, if_neg (by simp [hdash]), if_neg hmark, if_neg hletter,
        if_pos hdigit]
    simpa [Continues] using faultless_run_iff rfl hpart hfirst
  · subst hquote
    simpa using faultless_quote_iff s
  · subst hbang
    simpa using faultless_bang_iff s
  · simpa [Continues] using faultless_symbol_iff hsymbol s
  · have hfirst : first c s = shortItem c s :=
      first_eq_shortItem (by simpa using hblank) (by simp [hdash]) hmark (by simpa using hletter)
        (by simpa using hdigit) hquote
    rw [shortItem_of_not_mem_symbols hdash hbang hsymbol] at hfirst
    rw [faultless_cons_iff hfirst]
    simp [Item.isFault]

/-! ### After any character -/

/-- **One step of the automaton.**  What may follow a mode is a character that leads to a next mode,
and then what may follow that one. -/
lemma continues_cons_iff (mode : Mode) (c : CodePoint) (s : Text) :
    mode.Continues (c :: s) ↔ ∃ next, mode.step c = some next ∧ next.Continues s := by
  cases mode with
  | neutral => exact faultless_cons_iff_opened c s
  | word =>
      rw [continues_run_iff (fun _ => Iff.rfl), faultless_cons_iff_opened, step]
      split <;> simp
  | number =>
      rw [continues_run_iff (fun _ => Iff.rfl), faultless_cons_iff_opened, step]
      split <;> simp
  | minus =>
      rw [Continues, step]
      by_cases hc : c = .char '-'
      · subst hc
        have hpart : inLine (.char '-') = true := by decide
        simp [Continues, hpart]
      · simpa [hc] using faultless_cons_iff_opened c s
  | bang =>
      rw [step]
      by_cases hc : c = .char '='
      · subst hc
        simp [Continues]
      · simp [Continues, hc]
  | line =>
      rw [continues_run_iff (fun _ => Iff.rfl), step]
      by_cases hc : c = .char '\n'
      · subst hc
        simpa [inLine] using faultless_blank_iff (c := .char '\n') (by decide) s
      · simp [inLine, hc]
  | block =>
      rw [Continues, step, throughMark]
      by_cases hc : c = .char '#'
      · simp [hc, Continues]
      · simp [hc, Continues, Cut.cons]
  | string =>
      rw [step]
      by_cases hc : c = .char '\''
      · simp [hc, Continues]
      · simp [hc, Continues, throughQuote_cons_of_ne, Cut.cons]
  | quote =>
      rw [Continues, step]
      by_cases hc : c = .char '\''
      · simp [hc, Continues, throughQuote_quote_quote, Cut.cons]
      · rw [throughQuote_quote (by simpa using hc)]
        simpa [hc] using faultless_cons_iff_opened c s

/-- **A run of the automaton** accepts exactly what may follow in the mode that it starts in. -/
lemma accepts_iff (mode : Mode) (s : Text) : mode.Accepts s ↔ mode.Continues s := by
  induction s generalizing mode with
  | nil => simp [Accepts, continues_nil_iff]
  | cons c s ih =>
      rw [continues_cons_iff, Accepts, List.foldlM_cons]
      cases hstep : mode.step c with
      | none => simp
      | some next => simpa [Accepts] using ih next

end Mode

/-- **The sources without faults are those that the automaton accepts.** -/
theorem hasErrors_eq_false_iff (policy : KeywordCase) (source : Text) :
    hasErrors (tokenize policy source) = false ↔ Mode.neutral.Accepts source := by
  have hrun : Mode.neutral.Accepts source ↔ Faultless source := Mode.accepts_iff .neutral source
  rw [hrun, hasErrors_tokenize, List.any_eq_false, Faultless]
  simp

/-- A point goes on with a number and not with a word. -/
example : Mode.neutral.Accepts [.char '1', .char '.'] ∧
    ¬ Mode.neutral.Accepts [.char 'a', .char '.'] := by decide

end SqlFrontEnd.Lexing
