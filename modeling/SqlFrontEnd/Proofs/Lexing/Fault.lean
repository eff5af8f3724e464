import Mathlib
import SqlFrontEnd.Proofs.Lexing.Lookahead
import SqlFrontEnd.Proofs.Lexing.Reconstruction

/-!
# Faults among tokens and among segments

A token tells by its kind and by the first words of its lexeme whether it reports a fault and which
one.  A segment has the fault in its item.  The two agree, so what is asked about the tokens of a
source can be answered from its segments.

* `Token.isInvalid`, `Token.isUnclosed` — the reports of an invalid character and of a comment or
  literal that is not closed.
* `isError_of_token?`, `isInvalid_of_token?`, `isUnclosed_of_token?` — a token reports the fault of
  its segment and no other.
* `any_tokensFrom` — a test of tokens that is a test of items is answered by the segments.
* `hasErrors_tokenize` — the tokens of a source report a fault where a segment of it is one.
-/

namespace SqlFrontEnd

namespace Token

/-- Tests for the report of a fault in words that begin as given. -/
def reports (words : String) (t : Token) : Bool :=
  t.isError && (Text.ofString words).isPrefixOf t.lexeme

/-- Tests for the report of an invalid character. -/
def isInvalid (t : Token) : Bool := t.reports "Invalid character"

/-- Tests for the report of a comment or a string literal that is not closed. -/
def isUnclosed (t : Token) : Bool := t.reports "Unclosed"

end Token

namespace Lexing

namespace Item

def isFault : Item → Bool
  | .fault _ => true
  | _ => false

/-- Tests for a character that begins no item. -/
def isInvalid : Item → Bool
  | .fault (.invalidCharacter _) => true
  | _ => false

lemma isInvalid_iff {item : Item} :
    item.isInvalid = true ↔ ∃ c, item = .fault (.invalidCharacter c) := by
  cases item with
  | fault diagnostic => cases diagnostic <;> simp [isInvalid]
  | blank | lineComment | blockComment | word | number | string | operator | delimiter =>
      simp [isInvalid]

/-- What is invalid or not closed is a fault. -/
lemma valid_of_not_isFault {item : Item} (h : item.isFault = false) :
    item.isInvalid = false ∧ item.isUnclosed = false := by
  cases item with
  | fault diagnostic => cases h
  | blank | lineComment | blockComment | word | number | string | operator | delimiter =>
      exact ⟨rfl, rfl⟩

end Item

lemma isFault_of_isSkipped {segment : Segment} (h : segment.isSkipped = true) :
    segment.item.isFault = false := by
  obtain ⟨item, text⟩ := segment
  cases item with
  | fault diagnostic => cases h
  | blank | lineComment | blockComment | word | number | string | operator | delimiter => rfl

/-! ## One token -/

/-- Skipped segments give no token, and all others do. -/
lemma token?_eq_none_iff {policy : KeywordCase} {p : Place} {segment : Segment} :
    segment.token? policy p = none ↔ segment.isSkipped = true := by
  obtain ⟨item, text⟩ := segment
  cases item <;> simp [Segment.token?, Segment.isSkipped]

/-- A token reports a fault exactly where its segment is one, in the words of that fault. -/
lemma fault_cases_of_token? {policy : KeywordCase} {p : Place} {segment : Segment} {t : Token}
    (h : segment.token? policy p = some t) :
    (t.isError = false ∧ segment.item.isFault = false) ∨
      ∃ diagnostic, t.isError = true ∧ segment.item = .fault diagnostic ∧
        t.lexeme = Text.ofString diagnostic.summary ++ Place.wording p.line p.column := by
  obtain ⟨item, text⟩ := segment
  cases item with
  | blank | lineComment | blockComment => cases h
  | word =>
      cases h
      exact .inl ⟨by simpa [Token.isError] using wordKind_ne_error policy text, rfl⟩
  | number | string | operator | delimiter => cases h; exact .inl ⟨rfl, rfl⟩
  | fault diagnostic =>
      cases h
      exact .inr ⟨diagnostic, rfl, rfl, Diagnostic.ofString_message diagnostic p⟩

lemma isError_of_token? {policy : KeywordCase} {p : Place} {segment : Segment} {t : Token}
    (h : segment.token? policy p = some t) : t.isError = segment.item.isFault := by
  obtain ⟨hvalid, hitem⟩ | ⟨diagnostic, herror, hitem, -⟩ := fault_cases_of_token? h
  · rw [hvalid, hitem]
  · rw [herror, hitem]
    rfl

/-- Words that begin the reports of some faults and of no others single out these faults. -/
lemma reports_of_token? {words : String} {g : Item → Bool}
    (hvalid : ∀ item, Item.isFault item = false → g item = false)
    (hwords : ∀ (diagnostic : Diagnostic) (s : Text),
      (Text.ofString words).isPrefixOf (Text.ofString diagnostic.summary ++ s) = true ↔
        g (.fault diagnostic) = true)
    {policy : KeywordCase} {p : Place} {segment : Segment} {t : Token}
    (h : segment.token? policy p = some t) : t.reports words = g segment.item := by
  obtain ⟨hno, hitem⟩ | ⟨diagnostic, herror, hitem, hlexeme⟩ := fault_cases_of_token? h
  · rw [Token.reports, hno, Bool.false_and, hvalid _ hitem]
  · rw [Token.reports, herror, Bool.true_and, hlexeme, hitem, Bool.eq_iff_iff, hwords]

lemma isInvalid_of_token? {policy : KeywordCase} {p : Place} {segment : Segment} {t : Token}
    (h : segment.token? policy p = some t) : t.isInvalid = segment.item.isInvalid := by
  refine reports_of_token? (fun _ hitem => (Item.valid_of_not_isFault hitem).1) ?_ h
  intro diagnostic s
  rw [invalid_isPrefixOf_iff]
  cases diagnostic <;> simp [Item.isInvalid]

/-- The reports of what is not closed begin with a word of their own. -/
lemma unclosed_isPrefixOf_iff (diagnostic : Diagnostic) (s : Text) :
    (Text.ofString "Unclosed").isPrefixOf (Text.ofString diagnostic.summary ++ s) = true ↔
      diagnostic = .unclosedComment ∨ diagnostic = .unclosedString := by
  refine ⟨fun h => ?_, unclosed_isPrefixOf s⟩
  cases diagnostic with
  | unclosedComment => exact .inl rfl
  | unclosedString => exact .inr rfl
  | invalidCharacter c =>
      -- the report begins with other words, and two beginnings of one text agree
      obtain ⟨s', hs⟩ := List.isPrefixOf_iff_prefix.1
        ((invalid_isPrefixOf_iff (.invalidCharacter c) s).2 ⟨c, rfl⟩)
      rw [← hs] at h
      simp [Text.ofString, Text.ofChars, List.isPrefixOf] at h

/-- The report of a literal that is not closed begins with words of its own. -/
lemma unclosedString_isPrefixOf_iff (diagnostic : Diagnostic) (s : Text) :
    (Text.ofString "Unclosed string literal").isPrefixOf
      (Text.ofString diagnostic.summary ++ s) = true ↔ diagnostic = .unclosedString := by
  have hword : Text.ofString "Unclosed" <+: Text.ofString "Unclosed string literal" := by decide
  constructor
  · intro h
    have hshort := List.isPrefixOf_iff_prefix.2 (hword.trans (List.isPrefixOf_iff_prefix.1 h))
    obtain rfl | rfl := (unclosed_isPrefixOf_iff diagnostic s).1 hshort
    · change (Text.ofString _).isPrefixOf
        (Text.ofString "Unclosed comment starting at" ++ s) = _ at h
      simp [Text.ofString, Text.ofChars, List.isPrefixOf] at h
    · rfl
  · rintro rfl
    change (Text.ofString _).isPrefixOf
      (Text.ofString "Unclosed string literal starting at" ++ s) = _
    simp [Text.ofString, Text.ofChars]

lemma isUnclosed_of_token? {policy : KeywordCase} {p : Place} {segment : Segment} {t : Token}
    (h : segment.token? policy p = some t) : t.isUnclosed = segment.item.isUnclosed := by
  refine reports_of_token? (fun _ hitem => (Item.valid_of_not_isFault hitem).2) ?_ h
  intro diagnostic s
  rw [unclosed_isPrefixOf_iff]
  cases diagnostic <;> simp [Item.isUnclosed]

/-! ## All tokens -/

/-- A test of tokens that only looks at the items of their segments, and that no skipped segment
passes, is answered by the segments. -/
lemma any_tokensFrom {policy : KeywordCase} {f : Token → Bool} {g : Item → Bool}
    (hfg : ∀ {p : Place} {segment : Segment} {t : Token},
      segment.token? policy p = some t → f t = g segment.item)
    (hskip : ∀ segment : Segment, segment.isSkipped = true → g segment.item = false)
    (p : Place) (segs : List Segment) :
    (tokensFrom policy p segs).any f = segs.any fun segment => g segment.item := by
  induction segs generalizing p with
  | nil => rfl
  | cons segment segs ih =>
      rw [tokensFrom, List.any_append, ih, List.any_cons]
      cases htoken : segment.token? policy p with
      | none => simp [hskip segment (token?_eq_none_iff.1 htoken)]
      | some t => simp [hfg htoken]

/-- **The tokens of a source report a fault where a segment of it is one.** -/
lemma hasErrors_tokenize (policy : KeywordCase) (source : Text) :
    hasErrors (tokenize policy source) =
      (segments source).any fun segment => segment.item.isFault :=
  any_tokensFrom isError_of_token? (fun _ hskip => isFault_of_isSkipped hskip) .start
    (segments source)

/-- Where no token reports what is not closed, every segment is closed. -/
lemma isUnclosed_of_mem_segments {policy : KeywordCase} {source : Text}
    (h : ∀ t ∈ tokenize policy source, t.isUnclosed = false) :
    ∀ segment ∈ segments source, segment.item.isUnclosed = false := by
  have hskip : ∀ segment : Segment, segment.isSkipped = true →
      segment.item.isUnclosed = false := fun _ hskip =>
    (Item.valid_of_not_isFault (isFault_of_isSkipped hskip)).2
  have hany : (tokenize policy source).any Token.isUnclosed =
      (segments source).any fun segment => segment.item.isUnclosed :=
    any_tokensFrom isUnclosed_of_token? hskip .start (segments source)
  have hnone : (tokenize policy source).any Token.isUnclosed = false := by
    rw [List.any_eq_false]
    simpa using h
  rw [hany, List.any_eq_false] at hnone
  simpa using hnone

end Lexing

end SqlFrontEnd
