import Mathlib
import SqlFrontEnd.Lexing.Segment

/-!
# The policy on the case of keywords

The two policies cut a source in the same way and differ only in the spelling under which a word is
looked up.  The reserved spellings are in upper case and stay as they are when they are brought to
upper case, so a word that is reserved as it stands is the same under both policies.  What the
insensitive policy adds are identifiers that are reserved in upper case.

* `reserved?` — the kind that a spelling is reserved for, and `wordKind_eq` — the kind of a word by
  this table alone.
* `upper_eq_of_reserved?` — upper case does not change a reserved spelling.
* `rel_tokensFrom` — two lists of segments that are read in step, token by token.
* `Token.Reclassified` — how a token of the sensitive policy and one of the insensitive are related.
* **`forall₂_reclassified`** — so are the tokens of every source, one by one.
-/

namespace SqlFrontEnd

open Place Lexing

/-! ## Reserved spellings -/

/-- The spellings that are not identifiers: the keywords and the names of the column types. -/
def reservedSpellings : List (String × TokenKind) :=
  Keyword.all.map (fun keyword => (keyword.spelling, .keyword keyword)) ++
    columnTypes.map fun name => (name, .typeName)

/-- The kind that a spelling is reserved for. -/
def reserved? (word : Text) : Option TokenKind :=
  (reservedSpellings.find? fun entry => Text.ofString entry.1 == word).map (·.2)

/-- What is reserved stands in the table. -/
lemma exists_mem_of_reserved? {word : Text} {kind : TokenKind} (h : reserved? word = some kind) :
    ∃ entry ∈ reservedSpellings, Text.ofString entry.1 = word ∧ entry.2 = kind := by
  obtain ⟨entry, hfind, rfl⟩ := Option.map_eq_some_iff.1 h
  exact ⟨entry, List.mem_of_find?_eq_some hfind, by simpa using List.find?_some hfind, rfl⟩

lemma reserved?_ne_identifier (word : Text) : reserved? word ≠ some .identifier := by
  have hall : ∀ entry ∈ reservedSpellings, entry.2 ≠ .identifier := by decide
  intro h
  obtain ⟨entry, hmem, -, hkind⟩ := exists_mem_of_reserved? h
  exact hall entry hmem hkind

/-- **Reserved spellings are in upper case already.** -/
lemma upper_eq_of_reserved? {word : Text} {kind : TokenKind} (h : reserved? word = some kind) :
    Text.upper word = word := by
  have hall : ∀ entry ∈ reservedSpellings,
      Text.upper (Text.ofString entry.1) = Text.ofString entry.1 := by decide
  obtain ⟨entry, hmem, rfl, -⟩ := exists_mem_of_reserved? h
  exact hall entry hmem

/-- A word is of the kind that its key is reserved for, and else an identifier. -/
lemma wordKind_eq (policy : KeywordCase) (word : Text) :
    wordKind policy word = (reserved? (policy.key word)).getD .identifier := by
  have hreserved (key : Text) : reserved? key =
      ((Keyword.ofSpelling? key).map fun keyword => .keyword keyword).or
        ((columnTypes.find? (Text.ofString · == key)).map fun _ => .typeName) := by
    simp only [reserved?, reservedSpellings, List.find?_append, List.find?_map, Option.map_or,
      Option.map_map, Keyword.ofSpelling?, Function.comp_def]
  rw [wordKind, hreserved]
  cases Keyword.ofSpelling? (policy.key word) with
  | some keyword => rfl
  | none =>
      cases hname : columnTypes.find? (Text.ofString · == policy.key word) with
      | some name =>
          have hany := List.any_eq_true.2
            ⟨name, List.mem_of_find?_eq_some hname, List.find?_some hname⟩
          simp [hany]
      | none =>
          have hany : columnTypes.any (Text.ofString · == policy.key word) = false := by
            rw [List.any_eq_false]
            exact List.find?_eq_none.1 hname
          simp [hany]

/-! ## Two runs in step -/

namespace Lexing

/-- Two segments, read under two policies, lead from one place to one place and give related tokens
or none. -/
def InStep (R : Token → Token → Prop) (policy policy' : KeywordCase) (a b : Segment) : Prop :=
  ∀ p : Place, p.after a.text = p.after b.text ∧
    Option.Rel R (a.token? policy p) (b.token? policy' p)

/-- **Two runs in step.**  What holds segment by segment holds token by token. -/
lemma rel_tokensFrom {R : Token → Token → Prop} {policy policy' : KeywordCase}
    {segs segs' : List Segment} (h : List.Forall₂ (InStep R policy policy') segs segs')
    (p : Place) : List.Forall₂ R (tokensFrom policy p segs) (tokensFrom policy' p segs') := by
  induction h generalizing p with
  | nil => exact .nil
  | @cons a b _ _ hstep _ ih =>
      obtain ⟨hafter, htoken⟩ := hstep p
      have htail := ih (p.after a.text)
      rw [tokensFrom, tokensFrom, ← hafter]
      generalize a.token? policy p = t, b.token? policy' p = u at htoken
      cases htoken with
      | some hrel => exact .cons hrel htail
      | none => exact htail

end Lexing

/-! ## Words under both policies -/

namespace Token

/-- An identifier that is reserved when it is brought to upper case. -/
def IsMiscased (t : Token) : Prop :=
  t.kind = .identifier ∧ reserved? t.lexeme = none ∧
    (reserved? (Text.upper t.lexeme)).isSome = true

/-- A token `u` of the insensitive policy in the place of `t`: the same, except that a miscased
identifier is of the kind that its upper case is reserved for. -/
structure Reclassified (t u : Token) : Prop where
  lexeme_eq : u.lexeme = t.lexeme
  line_eq : u.line = t.line
  column_eq : u.column = t.column
  kind_eq : ¬ t.IsMiscased → u.kind = t.kind
  reserved?_eq : t.IsMiscased → reserved? (Text.upper t.lexeme) = some u.kind

namespace Reclassified

lemma refl {t : Token} (h : t.kind ≠ .identifier) : t.Reclassified t :=
  ⟨rfl, rfl, rfl, fun _ => rfl, fun hmiscased => absurd hmiscased.1 h⟩

/-- What is no identifier stays as it is. -/
lemma eq_of_kind_ne {t u : Token} (h : t.Reclassified u) (hkind : t.kind ≠ .identifier) :
    u = t := by
  have hsame := h.kind_eq fun hmiscased => hkind hmiscased.1
  obtain ⟨kind, lexeme, line, column⟩ := u
  obtain ⟨rfl, rfl, rfl, -, -⟩ := h
  obtain rfl : kind = t.kind := hsame
  rfl

/-- The token of a word, under both policies. -/
lemma of_word (word : Text) (line column : ℤ) :
    Reclassified ⟨wordKind .sensitive word, word, line, column⟩
      ⟨wordKind .insensitive word, word, line, column⟩ := by
  have hsensitive : wordKind .sensitive word = (reserved? word).getD .identifier :=
    wordKind_eq .sensitive word
  have hinsensitive : wordKind .insensitive word =
      (reserved? (Text.upper word)).getD .identifier := wordKind_eq .insensitive word
  rw [hsensitive, hinsensitive]
  cases hword : reserved? word with
  | some kind =>
      rw [upper_eq_of_reserved? hword, hword]
      refine refl fun hkind => reserved?_ne_identifier word ?_
      rw [hword]
      exact congrArg some hkind
  | none =>
      cases hupper : reserved? (Text.upper word) with
      | some kind =>
          refine ⟨rfl, rfl, rfl, fun hkept => absurd ⟨rfl, hword, ?_⟩ hkept, fun _ => hupper⟩
          rw [hupper]
          rfl
      | none =>
          refine ⟨rfl, rfl, rfl, fun _ => rfl, fun hmiscased => ?_⟩
          have hsome := hmiscased.2.2
          rw [hupper] at hsome
          cases hsome

end Reclassified

end Token

/-- One segment under both policies. -/
lemma Lexing.inStep_reclassified (segment : Segment) :
    InStep Token.Reclassified .sensitive .insensitive segment segment := by
  intro p
  refine ⟨rfl, ?_⟩
  obtain ⟨item, text⟩ := segment
  cases item with
  | blank | lineComment | blockComment => exact .none
  | word => exact .some (.of_word text p.line p.column)
  | number | string | operator | delimiter | fault => exact .some (.refl (by simp))

/-- **The policy only reclassifies words.**  Under the two policies a source has as many tokens, and
each has the same lexeme, line and column under both.  The kinds differ for identifiers alone, and
only for those that are reserved in upper case; these are of the kind they are reserved for.  So
every keyword, type name, literal, operator, delimiter and report of a fault stays the same. -/
theorem forall₂_reclassified (source : Text) :
    List.Forall₂ (fun t u => t.Reclassified u ∧ (t.kind ≠ .identifier → u = t))
      (tokenize .sensitive source) (tokenize .insensitive source) := by
  have hstep : List.Forall₂ (InStep Token.Reclassified .sensitive .insensitive)
      (segments source) (segments source) :=
    List.forall₂_same.2 fun segment _ => inStep_reclassified segment
  have htokens : List.Forall₂ Token.Reclassified (tokenize .sensitive source)
      (tokenize .insensitive source) := rel_tokensFrom hstep .start
  exact htokens.imp fun t u h => ⟨h, h.eq_of_kind_ne⟩

/-- A long `s` is a capital one in upper case, so this identifier is a keyword under the insensitive
policy, as it is written. -/
example : tokenize .insensitive (Text.ofString "ſelect") =
      [⟨.keyword .SELECT, Text.ofString "ſelect", 1, 1⟩] ∧
    tokenize .sensitive (Text.ofString "ſelect") =
      [⟨.identifier, Text.ofString "ſelect", 1, 1⟩] := by decide +kernel

end SqlFrontEnd
