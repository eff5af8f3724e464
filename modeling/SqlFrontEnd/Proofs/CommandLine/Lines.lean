import Mathlib
import SqlFrontEnd.Proofs.CommandLine.Stages
import SqlFrontEnd.Proofs.Token.Line
import SqlFrontEnd.Text.Split

/-!
# One line for each token

Whoever reads the printed tokens line by line relies on each of them being one line.  Every token
that is no string literal is, as its line has no line break.  A string literal keeps the line feeds
of the source, so the line of one that has any is cut into several, and there are more lines than
tokens.

* `length_splitAt`, `splitAt_lines` — the parts of a text, counted, and those of a text that is put
  together from lines.
* `count_flatMap_shown`, `splitAt_flatMap_shown_iff` — the lines of tokens.
* `run_of_text` — a run that has settings and a source.
* **`run_tokenize_lines`** — a run that prints tokens prints one line for each exactly if no string
  literal of the source has a line feed.
-/

namespace SqlFrontEnd

/-! ## Lines of a text -/

namespace Text

variable {α : Type} [DecidableEq α] {separator : α}

/-- A text has one part more than separators. -/
lemma length_splitAt (s : List α) : (splitAt separator s).length = s.count separator + 1 := by
  induction s with
  | nil => rfl
  | cons c s ih =>
      rw [splitAt]
      by_cases hc : c = separator
      · rw [if_pos hc, List.length_cons, ih, hc, List.count_cons_self]
      · rw [if_neg hc, List.count_cons_of_ne hc, ← ih]
        cases hs : splitAt separator s with
        | nil => exact absurd hs (splitAt_ne_nil separator s)
        | cons part parts => rfl

/-- What stands before the first separator is the first part. -/
lemma splitAt_append_cons {a : List α} (h : separator ∉ a) (s : List α) :
    splitAt separator (a ++ separator :: s) = a :: splitAt separator s := by
  induction a with
  | nil => rw [List.nil_append, splitAt, if_pos rfl]
  | cons c a ih =>
      rw [List.mem_cons, not_or] at h
      rw [List.cons_append, splitAt, if_neg (Ne.symm h.1), ih h.2]

/-- **Lines that are put together come apart again**, with nothing behind the last one. -/
lemma splitAt_lines {lines : List (List α)} (h : ∀ line ∈ lines, separator ∉ line) :
    splitAt separator (lines.flatMap (· ++ [separator])) = lines ++ [[]] := by
  induction lines with
  | nil => rfl
  | cons line lines ih =>
      obtain ⟨hline, hlines⟩ := List.forall_mem_cons.1 h
      rw [List.flatMap_cons, List.append_assoc, List.singleton_append, splitAt_append_cons hline,
        ih hlines, List.cons_append]

end Text

/-! ## Lines of tokens -/

/-- The line feeds of string literals. -/
def feedsInStrings (tokens : List Token) : ℕ :=
  ((tokens.filter (·.kind == .string)).map (·.lexeme.count (.char '\n'))).sum

/-- Some string literal has a line feed. -/
def FeedInString (tokens : List Token) : Prop :=
  ∃ t ∈ tokens, t.kind = .string ∧ .char '\n' ∈ t.lexeme

instance (tokens : List Token) : Decidable (FeedInString tokens) :=
  inferInstanceAs (Decidable (∃ t ∈ tokens, t.kind = .string ∧ .char '\n' ∈ t.lexeme))

lemma feedsInStrings_eq_zero_iff (tokens : List Token) :
    feedsInStrings tokens = 0 ↔ ¬ FeedInString tokens := by
  rw [feedsInStrings, List.sum_eq_zero_iff, List.forall_mem_map]
  simp [FeedInString, List.count_eq_zero]

lemma feedsInStrings_cons {t : Token} (h : .char '\n' ∈ t.lexeme → t.kind = .string)
    (tokens : List Token) :
    feedsInStrings (t :: tokens) = t.lexeme.count (.char '\n') + feedsInStrings tokens := by
  by_cases hkind : t.kind = .string
  · simp [feedsInStrings, hkind]
  · have hzero : t.lexeme.count (.char '\n') = 0 := List.count_eq_zero.2 (mt h hkind)
    simp [feedsInStrings, hkind, hzero]

/-- **Counting lines**: one for each token, and one for each line feed in a string literal. -/
lemma count_flatMap_shown {tokens : List Token}
    (h : ∀ t ∈ tokens, .char '\n' ∈ t.lexeme → t.kind = .string) :
    (tokens.flatMap fun t => t.shown ++ [.char '\n']).count (.char '\n') =
      tokens.length + feedsInStrings tokens := by
  induction tokens with
  | nil => rfl
  | cons t tokens ih =>
      obtain ⟨ht, htokens⟩ := List.forall_mem_cons.1 h
      rw [List.flatMap_cons, List.count_append, List.count_append, ih htokens,
        feedsInStrings_cons ht, t.count_shown (by decide), List.count_singleton_self,
        List.length_cons]
      omega

/-- **Which tokens are read back line by line**: those without a line feed in a string literal. -/
lemma splitAt_flatMap_shown_iff {tokens : List Token}
    (h : ∀ t ∈ tokens, .char '\n' ∈ t.lexeme → t.kind = .string) :
    Text.splitAt (.char '\n') (tokens.flatMap fun t => t.shown ++ [.char '\n']) =
      tokens.map Token.shown ++ [[]] ↔ ¬ FeedInString tokens := by
  constructor
  · intro hsplit
    have hlength := congrArg List.length hsplit
    rw [Text.length_splitAt, count_flatMap_shown h, List.length_append, List.length_map,
      List.length_singleton] at hlength
    rw [← feedsInStrings_eq_zero_iff]
    omega
  · intro hnone
    have hlines : ∀ line ∈ tokens.map Token.shown, .char '\n' ∉ line := by
      rw [List.forall_mem_map]
      intro t ht hfeed
      have hlexeme := (t.mem_shown_iff (by decide)).1 hfeed
      exact hnone ⟨t, ht, h t ht hlexeme, hlexeme⟩
    rw [← Text.splitAt_lines hlines, List.flatMap_map]

namespace CommandLine

/-! ## Runs -/

variable {around : Surroundings} {file : String} {words : List String} {level : Option LogLevel}
  {request : TokenizeRequest} {settings : Settings} {text : Text}

/-- A run with settings and a source reports on the source. -/
lemma run_of_text (hwords : Invocation.ofWords words = .ok ⟨level, .tokenize request⟩)
    (hsettings : settingsOf around request.config = .ok settings)
    (htext : SourceText around request.file text) (hblank : Text.isBlankText text = false) :
    run words around = .ok (tokenizeReport (level.getD settings.logLevel)
      (request.keywordCase.getD settings.keywordCase) request.json text) := by
  rw [run_of_settings hwords hsettings, runTokenize, htext.sourceOf_eq, hblank]
  rfl

/-- **One line for each token.**  Whatever the source and the policy, the line of a token has the
line breaks of its lexeme if it is a string literal, and none otherwise.  A run that prints the
tokens of a source prints a line feed for each token and for each one in a string literal, so it
prints as many lines as tokens, and they are read back line by line, exactly if no string literal
has a line feed. -/
theorem run_tokenize_lines
    (hwords : Invocation.ofWords words = .ok ⟨level, .tokenize request⟩)
    (hlines : request.json = false) (hsettings : settingsOf around request.config = .ok settings)
    (htext : SourceText around request.file text) (hblank : Text.isBlankText text = false) :
    (∀ (policy : KeywordCase) (source : Text), ∀ t ∈ tokenize policy source, ∀ b : CodePoint,
      b.holds Text.isLineBreak = true → (b ∈ t.shown ↔ t.kind = .string ∧ b ∈ t.lexeme)) ∧
    ∃ report, run words around = .ok report ∧
      let tokens := tokenize (request.keywordCase.getD settings.keywordCase) text
      report.output.count (.char '\n') = tokens.length + feedsInStrings tokens ∧
      (report.output.count (.char '\n') = tokens.length ↔ ¬ FeedInString tokens) ∧
      (Text.splitAt (.char '\n') report.output = tokens.map Token.shown ++ [[]] ↔
        ¬ FeedInString tokens) := by
  refine ⟨fun policy source t ht b hb => ?_, ?_⟩
  · rw [t.mem_shown_iff hb, iff_and_self]
    exact kind_eq_string_of_isLineBreak ht hb
  · have hrun := run_of_text hwords hsettings htext hblank
    rw [hlines] at hrun
    have hstring : ∀ t ∈ tokenize (request.keywordCase.getD settings.keywordCase) text,
        .char '\n' ∈ t.lexeme → t.kind = .string :=
      fun t ht => kind_eq_string_of_isLineBreak ht (by decide)
    have hcount := count_flatMap_shown hstring
    refine ⟨_, hrun, hcount, ?_, splitAt_flatMap_shown_iff hstring⟩
    rw [← feedsInStrings_eq_zero_iff]
    exact (Eq.congr_left hcount).trans Nat.add_eq_left

/-! ## Runs on standard input -/

lemma ofWords_tokenize : Invocation.ofWords ["tokenize"] = .ok ⟨none, .tokenize {}⟩ := by
  decide +kernel

lemma settingsOf_typed (octets : List UInt8) :
    settingsOf (typed octets) none = .ok Settings.default := by
  have hfolder : settingsOf (folder []) none = .ok Settings.default := by decide +kernel
  exact hfolder

lemma sourceText_typed {octets : List UInt8} {text : Text}
    (h : (Text.Utf8.decode octets).map Text.ofChars = .ok text) :
    SourceText (typed octets) standardInput text := .input rfl rfl h

/-- A literal with a carriage return in it is printed on one line that has it. -/
theorem run_tokenize_lines_literal :
    ∃ report, run ["tokenize"] (typed [0x27, 0x61, 0x0D, 0x62, 0x27]) = .ok report ∧
      Text.splitAt (.char '\n') report.output =
        [Text.ofString "Token: STRING, Lexeme: 'a\rb', (line 1, col 1)", []] := by
  have htext : SourceText (typed [0x27, 0x61, 0x0D, 0x62, 0x27]) standardInput
      (Text.ofString "'a\rb'") := sourceText_typed (by decide +kernel)
  obtain ⟨-, report, hrun, -, -, hsplit⟩ :=
    run_tokenize_lines ofWords_tokenize rfl (settingsOf_typed _) htext (by decide)
  exact ⟨report, hrun, (hsplit.2 (by decide +kernel)).trans (by decide +kernel)⟩

/-- A literal that goes on in a second line is one token and printed on two lines. -/
theorem run_tokenize_twoLines :
    (tokenize Settings.default.keywordCase (Text.ofString "'a\nb'")).length = 1 ∧
    ∃ report, run ["tokenize"] (typed [0x27, 0x61, 0x0A, 0x62, 0x27]) = .ok report ∧
      Text.splitAt (.char '\n') report.output =
        [Text.ofString "Token: STRING, Lexeme: 'a", Text.ofString "b', (line 1, col 1)", []] := by
  have htext : SourceText (typed [0x27, 0x61, 0x0A, 0x62, 0x27]) standardInput
      (Text.ofString "'a\nb'") := sourceText_typed (by decide +kernel)
  exact ⟨by decide +kernel, _,
    run_of_text ofWords_tokenize (settingsOf_typed _) htext (by decide), by decide +kernel⟩

end CommandLine

end SqlFrontEnd
