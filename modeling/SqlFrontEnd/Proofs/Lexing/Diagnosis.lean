import Mathlib
import SqlFrontEnd.Proofs.Lexing.Fault
import SqlFrontEnd.Proofs.Number.Decimal
import SqlFrontEnd.Proofs.Text.Quoted

/-!
# What a report tells

The report of a fault is a line of words with a place at its end.  The place is where the token
stands, and what the words say is true of the source there: a comment or a literal begins that the
rest of the source does not end, or a character stands there that begins nothing.

Read from its end, the report gives away all of this.  The column and the line are the last runs of
digits, the first words name the kind of the fault, and a character stands between its quotes in a
form of its own.

* `Diagnostic.words` — what is wrong, with the character as it is quoted.
* `Diagnostic.Found` — what a source has where a fault is found.
* `Token.Diagnoses` — a token that reports a fault of a source, in the right words.
* `Selected.found` — every fault is found where it is reported.
* `report_injective` — a report tells the fault, the line and the column.
* **`error_diagnosed`** — so does every token of a source that reports a fault.
-/

namespace SqlFrontEnd

open Place Lexing

namespace Diagnostic

/-- What is wrong, with a character in the quotes that any text of one character is given. -/
def words : Diagnostic → String
  | invalidCharacter c => "Invalid character " ++ Text.quoted [c] ++ " at"
  | unclosedComment => "Unclosed comment starting at"
  | unclosedString => "Unclosed string literal starting at"

/-- A character that begins nothing, at an offset of a source.  An exclamation mark is one where no
equals sign follows it. -/
structure Rejected (source : Text) (offset : ℕ) (c : CodePoint) : Prop where
  getElem?_eq : source[offset]? = some c
  not_blank : c.holds Text.isBlank = false
  not_letter : c.holds Text.isLetter = false
  not_digit : c.holds Text.isDigit = false
  ne_quote : c ≠ .char '\''
  ne_mark : c ≠ .char '#'
  not_operator : singleOperator? c = none
  not_delimiter : delimiter? c = none
  lone : c = .char '!' → source[offset + 1]? ≠ some (.char '=')

/-- What a source has at the offset where a fault is found.  A literal is not closed where all that
follows its opening quote is content, with its quotes doubled. -/
def Found (source : Text) (offset : ℕ) : Diagnostic → Prop
  | invalidCharacter c => Rejected source offset c
  | unclosedComment => source[offset]? = some (.char '#') ∧ .char '#' ∉ source.drop (offset + 1)
  | unclosedString => source[offset]? = some (.char '\'') ∧
      ∃ content, source.drop (offset + 1) = doubled content

end Diagnostic

/-- A token that reports a fault found at an offset of a source: its place is that of the offset,
and its lexeme says what is wrong, with the line and the column of the token. -/
structure Token.Diagnoses (source : Text) (t : Token) (offset : ℕ) (d : Diagnostic) : Prop where
  kind_eq : t.kind = .error
  offset_eq : offset? source t.line t.column = some offset
  lexeme_eq : t.lexeme = Text.ofString d.words ++ wording t.line t.column
  found : d.Found source offset

/-! ## What is found -/

namespace Lexing

/-- A character is rejected where no rule begins. -/
lemma Selected.rejected {segment : Segment} {rest : Text} {c : CodePoint}
    (h : Selected segment rest) (hitem : segment.item = .fault (.invalidCharacter c))
    (before : Text) :
    Diagnostic.Rejected (before ++ (segment.text ++ rest)) before.length c := by
  have htext : segment.text = [c] := by
    have hfits := h.fits
    rwa [hitem] at hfits
  have hnone (rule : Rule) (hrule : rule ≠ .unknown) : rule.begins (c :: rest) = false := by
    have hbegins := h.not_begins_of_invalid hitem rule hrule
    rwa [htext] at hbegins
  have hsingle : singleItem c = .fault (.invalidCharacter c) :=
    singleItem_of_not_begins (hnone .oneCharacter (by simp))
  rw [htext, List.singleton_append]
  refine ⟨by simp, hnone .blank (by simp), hnone .word (by simp), hnone .number (by simp), ?_, ?_,
    ?_, ?_, ?_⟩
  · simpa [Rule.begins] using hnone .string (by simp)
  · simpa [Rule.begins] using hnone .blockComment (by simp)
  · cases hoperator : singleOperator? c with
    | none => rfl
    | some symbol => simp [singleItem, hoperator] at hsingle
  · cases hoperator : singleOperator? c with
    | some symbol => simp [singleItem, hoperator] at hsingle
    | none =>
        cases hdelimiter : delimiter? c with
        | none => rfl
        | some symbol => simp [singleItem, hoperator, hdelimiter] at hsingle
  · rintro rfl hequal
    have hhead : rest.head? = some (.char '=') := by
      simpa [List.head?_eq_getElem?, List.getElem?_append_right] using hequal
    have hpair : Rule.twoCharacters.begins (.char '!' :: rest) = true :=
      Rule.begins_twoCharacters_iff.2 ⟨'!', '=', .notEqual, by decide, rfl, hhead⟩
    rw [hnone .twoCharacters (by simp)] at hpair
    cases hpair

/-- **Every fault is found where it is reported.** -/
lemma Selected.found {segment : Segment} {rest : Text} {d : Diagnostic} (h : Selected segment rest)
    (hitem : segment.item = .fault d) (before : Text) :
    d.Found (before ++ (segment.text ++ rest)) before.length := by
  have hfits := h.fits
  have hdrop (c : CodePoint) (body : Text) :
      (before ++ (c :: body ++ [])).drop (before.length + 1) = body := by
    rw [List.append_nil, ← List.drop_drop, List.drop_left, List.drop_one, List.tail_cons]
  rw [hitem] at hfits
  cases d with
  | invalidCharacter c => exact h.rejected hitem before
  | unclosedComment =>
      obtain ⟨body, hbody, htext, rfl⟩ := hfits
      rw [htext]
      exact ⟨by simp, by rwa [hdrop]⟩
  | unclosedString =>
      obtain ⟨content, htext, rfl⟩ := hfits
      rw [htext]
      exact ⟨by simp, content, hdrop _ _⟩

end Lexing

/-! ## What is reported -/

namespace Diagnostic

/-- Of the characters that are reported none is the quote that would have other marks around it. -/
lemma summary_eq_words {source : Text} {offset : ℕ} {d : Diagnostic} (h : d.Found source offset) :
    d.summary = d.words := by
  cases d with
  | invalidCharacter c =>
      exact congrArg (fun quoted => "Invalid character " ++ quoted ++ " at")
        (Text.quoted_singleton h.ne_quote).symm
  | unclosedComment => rfl
  | unclosedString => rfl

lemma toList_words (c : CodePoint) : (invalidCharacter c).words.toList =
    "Invalid character ".toList ++ ((Text.quoted [c]).toList ++ " at".toList) := by
  have happend (s t u : String) : (s ++ t ++ u).toList = s.toList ++ (t.toList ++ u.toList) := by
    simp only [String.toList_append, List.append_assoc]
  exact happend _ _ _

/-- The words tell the kinds of fault apart, and the characters. -/
lemma words_injective : Function.Injective words := by
  have hother {c : CodePoint} {s : String} (hs : s.toList.head? = some 'U') :
      (invalidCharacter c).words ≠ s := by
    rintro rfl
    rw [toList_words] at hs
    cases hs
  intro d d' h
  cases d with
  | invalidCharacter c =>
      cases d' with
      | invalidCharacter c' =>
          have hchars := congrArg String.toList h
          rw [toList_words, toList_words] at hchars
          have hquoted := List.append_cancel_right (List.append_cancel_left hchars)
          rw [Text.quoted_singleton_injective (String.toList_injective hquoted)]
      | unclosedComment => exact absurd h (hother (by decide))
      | unclosedString => exact absurd h (hother (by decide))
  | unclosedComment =>
      cases d' with
      | invalidCharacter c' => exact absurd h.symm (hother (by decide))
      | unclosedComment => rfl
      | unclosedString => exact absurd h (by decide)
  | unclosedString =>
      cases d' with
      | invalidCharacter c' => exact absurd h.symm (hother (by decide))
      | unclosedComment => exact absurd h (by decide)
      | unclosedString => rfl

end Diagnostic

/-- The token of a fault says what is wrong, with its own line and column. -/
lemma Lexing.Gives.lexeme_of_fault {policy : KeywordCase} {source : Text} {offset : ℕ}
    {segment : Segment} {t : Token} {d : Diagnostic} (h : Gives policy source offset segment t)
    (hitem : segment.item = .fault d) :
    t.lexeme = Text.ofString d.summary ++ wording t.line t.column := by
  have hmessage := h.lexeme_eq
  rw [hitem] at hmessage
  rw [h.line_eq, h.column_eq]
  exact hmessage.trans (Diagnostic.ofString_message d _)

/-- The characters of a report: what is wrong, and two integers, each behind a label. -/
lemma ofString_append_wording (s : String) (line column : ℤ) :
    Text.ofString s ++ wording line column =
      Text.ofChars (s.toList ++ " line ".toList ++ (Decimal.integerText line).toList ++
        ", column ".toList ++ (Decimal.integerText column).toList) := by
  simp only [wording, Text.ofString, Text.ofChars, String.toList_append, List.map_append,
    List.append_assoc]

/-- **A report tells everything**: the fault, the line and the column. -/
lemma report_injective {d d' : Diagnostic} {line column line' column' : ℤ}
    (h : Text.ofString d.words ++ wording line column =
      Text.ofString d'.words ++ wording line' column') :
    d = d' ∧ line = line' ∧ column = column' := by
  rw [ofString_append_wording, ofString_append_wording] at h
  have hchars := List.map_injective_iff.2 (fun _ _ => CodePoint.char.inj) h
  -- the report is read from its end: the column, then the line, then what is wrong
  obtain ⟨hline, hcolumn⟩ := Decimal.append_labelled_injective (by decide) hchars
  obtain ⟨hwords, hline⟩ := Decimal.append_labelled_injective (by decide) hline
  exact ⟨Diagnostic.words_injective (String.toList_injective hwords), hline, hcolumn⟩

/-- **What a report tells.**  Every token of a source that reports a fault stands where the fault is
found, and says what is wrong there and where.  No other report, of this source or of another, has
the same lexeme, unless it is of the same fault, in the same line and the same column. -/
theorem error_diagnosed (policy : KeywordCase) {source : Text} {t : Token}
    (ht : t ∈ tokenize policy source) (herror : t.isError = true) :
    ∃ offset d, t.Diagnoses source offset d ∧
      ∀ (source' : Text) (u : Token) (offset' : ℕ) (d' : Diagnostic),
        u.Diagnoses source' offset' d' → u.lexeme = t.lexeme →
          d' = d ∧ u.line = t.line ∧ u.column = t.column := by
  obtain ⟨before, segment, rest, rfl, hsel, hgives⟩ := exists_cut_of_mem ht
  have hkind : t.kind = .error := eq_of_beq herror
  have hplace : t.line = (start.after before).line ∧ t.column = (start.after before).column := by
    rw [hgives.line_eq, hgives.column_eq, placeAt_append]
    exact ⟨rfl, rfl⟩
  obtain ⟨d, hitem⟩ : ∃ d, segment.item = .fault d := by
    by_contra hvalid
    rw [(hgives.lexeme_eq_text (not_exists.1 hvalid)).1] at herror
    cases herror
  have hfound := hsel.found hitem before
  have hlexeme : t.lexeme = Text.ofString d.words ++ wording t.line t.column := by
    rw [hgives.lexeme_of_fault hitem, Diagnostic.summary_eq_words hfound]
  refine ⟨before.length, d, ⟨hkind, ?_, hlexeme, hfound⟩, ?_⟩
  · rw [hplace.1, hplace.2, offset?_after]
  · intro source' u offset' d' hu hequal
    rw [hu.lexeme_eq, hlexeme] at hequal
    exact report_injective hequal

/-- A space without width on the second line: the report shows it by its number, and no other report
reads the same. -/
theorem error_diagnosed_zeroWidth :
    ∃ offset d, Token.Diagnoses [.char '\n', .char '\u200b']
        ⟨.error, Text.ofString "Invalid character '\\u200b' at line 2, column 1", 2, 1⟩ offset d ∧
      ∀ (source' : Text) (u : Token) (offset' : ℕ) (d' : Diagnostic),
        u.Diagnoses source' offset' d' →
          u.lexeme = Text.ofString "Invalid character '\\u200b' at line 2, column 1" →
            d' = d ∧ u.line = 2 ∧ u.column = 1 :=
  error_diagnosed .insensitive (by decide +kernel) (by decide)

end SqlFrontEnd
