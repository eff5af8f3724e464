import Mathlib
import SqlFrontEnd.Number.Literal

/-!
# Numbers that are read

Numbers may be written in more ways than are needed.  What is written in digits of ASCII alone, as
integers in one of four bases and as numbers with a point and an exponent, is read: no white space
is trimmed, no sign and no mark is taken off, and no digit has to be translated.

* `isDigitIn`, `Digits` — the digits of a base; `literal_digit` — what they are to a reader.
* **`integer_of_digits`** — digits are read as an integer.
* `WritesMantissa`, `WritesExponent` — the numbers with a point and an exponent;
  **`real?_append`** — they are read.
-/

namespace SqlFrontEnd.Literal

/-! ## Digits -/

/-- Tests for a digit in ASCII below a base. -/
def isDigitIn (base : ℕ) (c : Char) : Bool :=
  (Hexadecimal.digitValue? c).any fun n => decide (n < base)

/-- A row of digits of a base. -/
structure Digits (base : ℕ) (ds : List Char) : Prop where
  ne_nil : ds ≠ []
  isDigitIn : ∀ c ∈ ds, isDigitIn base c = true

lemma isDigitIn_iff {base : ℕ} {c : Char} :
    isDigitIn base c = true ↔ ∃ n, Hexadecimal.digitValue? c = some n ∧ n < base := by
  simp [isDigitIn, Option.any_eq_true]

lemma toNat_lt_of_digitValue? {c : Char} {n : ℕ} (h : Hexadecimal.digitValue? c = some n) :
    c.toNat < 0x80 := by
  unfold Hexadecimal.digitValue? at h
  split_ifs at h with h₁ h₂ h₃
  · exact Nat.lt_of_le_of_lt h₁.2 (by decide)
  · exact Nat.lt_of_le_of_lt h₂.2 (by decide)
  · exact Nat.lt_of_le_of_lt h₃.2 (by decide)

/-- What a digit is to a reader. -/
structure IsLiteralDigit (c : Char) : Prop where
  digitValue?_eq : digitValue? c = Hexadecimal.digitValue? c
  isWhiteSpace_eq : Text.isWhiteSpace c = false
  ne_underscore : c ≠ '_'
  ne_minus : c ≠ '-'
  ne_plus : c ≠ '+'

/-- **A digit is taken as it stands.** -/
lemma literal_digit {base : ℕ} {c : Char} (h : isDigitIn base c = true) : IsLiteralDigit c := by
  have hall : ∀ n < 0x80, (Hexadecimal.digitValue? (Char.ofNat n)).isSome = true →
      digitValue? (Char.ofNat n) = Hexadecimal.digitValue? (Char.ofNat n) ∧
        Text.isWhiteSpace (Char.ofNat n) = false ∧ Char.ofNat n ≠ '_' ∧ Char.ofNat n ≠ '-' ∧
          Char.ofNat n ≠ '+' := by
    decide +kernel
  obtain ⟨n, hn, -⟩ := isDigitIn_iff.1 h
  have hc := hall c.toNat (toNat_lt_of_digitValue? hn)
  rw [Char.ofNat_toNat] at hc
  obtain ⟨h₁, h₂, h₃, h₄, h₅⟩ := hc (by rw [hn]; rfl)
  exact ⟨h₁, h₂, h₃, h₄, h₅⟩

lemma trimBy_eq_self {p : Char → Bool} {text : List Char} (h : ∀ c ∈ text, p c = false) :
    Text.trimBy p text = text := by
  have hself (text : List Char) (h : ∀ c ∈ text, p c = false) : text.dropWhile p = text := by
    cases text with
    | nil => rfl
    | cons c text => exact List.dropWhile_cons_of_neg (by simp [h c List.mem_cons_self])
  rw [Text.trimBy, hself text h, hself text.reverse (by simpa using h), List.reverse_reverse]

lemma signed_of_ne {c : Char} (hminus : c ≠ '-') (hplus : c ≠ '+') (s : List Char) :
    signed (c :: s) = (false, c :: s) := by
  unfold signed
  split
  · next h => exact absurd (List.cons.inj h).1 hminus
  · next h => exact absurd (List.cons.inj h).1 hplus
  · rfl

variable {base : ℕ} {ds : List Char}

lemma signed_of_digits (h : Digits base ds) : signed ds = (false, ds) := by
  obtain ⟨c, ds, rfl⟩ := List.exists_cons_of_ne_nil h.ne_nil
  have hc := literal_digit (h.isDigitIn c List.mem_cons_self)
  exact signed_of_ne hc.ne_minus hc.ne_plus ds

lemma digitRun?_singleton {c : Char} {n : ℕ} (hc : digitValue? c = some n) (hn : n < base) :
    digitRun? base [c] = some [n] := by
  rw [digitRun?, hc]
  exact if_pos hn

/-- The values of a row of digits. -/
lemma digitRun?_of_digits (h : Digits base ds) :
    ∃ ns, digitRun? base ds = some ns ∧ ns.length = ds.length := by
  obtain ⟨hne, hall⟩ := h
  induction ds with
  | nil => exact absurd rfl hne
  | cons c ds ih =>
      obtain ⟨hc, hds⟩ := List.forall_mem_cons.1 hall
      obtain ⟨n, hvalue, hlt⟩ := isDigitIn_iff.1 hc
      have hdigit := (literal_digit hc).digitValue?_eq.trans hvalue
      cases ds with
      | nil => exact ⟨[n], digitRun?_singleton hdigit hlt, rfl⟩
      | cons d ds =>
          obtain ⟨ns, hns, hlength⟩ := ih (List.cons_ne_nil d ds) hds
          have hd := (literal_digit (hds d List.mem_cons_self)).ne_underscore
          refine ⟨n :: ns, ?_, congrArg (· + 1) hlength⟩
          rw [digitRun?, hdigit]
          dsimp only
          rw [if_pos hlt, if_neg hd, hns]
          rfl

/-! ## Integers -/

/-- The bases in which integers are written. -/
def bases : List ℕ := [2, 8, 10, 16]

/-- No digit of a base is its mark. -/
lemma not_isDigitIn_of_mem_baseMark (hbase : base ∈ bases) :
    ∀ c ∈ baseMark base, isDigitIn base c = false := by
  simp only [bases, List.mem_cons, List.not_mem_nil, or_false] at hbase
  obtain rfl | rfl | rfl | rfl := hbase <;>
    simp [baseMark, isDigitIn, Hexadecimal.digitValue?]

lemma withoutMark_of_digits (hbase : base ∈ bases) (h : Digits base ds) :
    withoutMark base ds = ds := by
  unfold withoutMark
  split
  · next c rest =>
    have hc := h.isDigitIn c (by simp)
    have hmark : (baseMark base).contains c = false := by
      rw [Bool.eq_false_iff, ne_eq, List.contains_iff_mem]
      intro hmem
      rw [not_isDigitIn_of_mem_baseMark hbase c hmem] at hc
      cases hc
    rw [hmark]
    rfl
  · rfl

/-- **Digits are read as an integer**, if there are not too many of them in base ten. -/
theorem integer_of_digits (hbase : base ∈ bases) (h : Digits base ds)
    (hlength : base = 10 → ds.length ≤ maxDigits) : ∃ i, integer base ds = .ok i := by
  have htrim : Text.trimBy Text.isWhiteSpace ds = ds :=
    trimBy_eq_self fun c hc => (literal_digit (h.isDigitIn c hc)).isWhiteSpace_eq
  have hrun : ∀ c ∈ ds, isInRun base c = true := by
    intro c hc
    obtain ⟨n, hvalue, hlt⟩ := isDigitIn_iff.1 (h.isDigitIn c hc)
    rw [isInRun, (literal_digit (h.isDigitIn c hc)).digitValue?_eq, hvalue]
    simp [hlt]
  obtain ⟨ns, hns, hnslength⟩ := digitRun?_of_digits h
  have hfew : ¬ (base = 10 ∧ maxDigits < ns.length) := fun hmany =>
    absurd (hlength hmany.1) (by omega)
  have hinteger : integer base ds = .ok (value base ns : ℤ) := by
    simp only [integer, htrim, signed_of_digits h, withoutMark_of_digits hbase h,
      List.takeWhile_eq_self_iff.2 hrun, List.dropWhile_eq_nil_iff.2 hrun, hns, if_neg hfew]
    rfl
  exact ⟨_, hinteger⟩

/-! ## Numbers with a point and an exponent -/

/-- The exponents of numbers: none, or digits behind a mark, with or without a sign. -/
inductive WritesExponent : List Char → Prop
  | none : WritesExponent []
  | plain {ds : List Char} (h : Digits 10 ds) : WritesExponent ('e' :: ds)
  | signed {sign : Char} {ds : List Char} (hsign : sign = '+' ∨ sign = '-') (h : Digits 10 ds) :
      WritesExponent ('e' :: sign :: ds)

/-- What stands before an exponent: digits, among which there may be a point. -/
inductive WritesMantissa : List Char → Prop
  | whole {ds : List Char} (h : Digits 10 ds) : WritesMantissa ds
  | point {ds es : List Char} (hds : ∀ c ∈ ds, isDigitIn 10 c = true)
      (hes : ∀ c ∈ es, isDigitIn 10 c = true) (hne : ds ≠ [] ∨ es ≠ []) :
      WritesMantissa (ds ++ '.' :: es)

/-- The characters of a mantissa. -/
def isMantissaPart (c : Char) : Bool := isDigitIn 10 c || c == '.'

/-- The characters of a number. -/
def isRealPart (c : Char) : Bool := isMantissaPart c || ['e', '+', '-'].contains c

lemma toNat_lt_of_isRealPart {c : Char} (h : isRealPart c = true) : c.toNat < 0x80 := by
  simp only [isRealPart, isMantissaPart, Bool.or_eq_true, beq_iff_eq, List.contains_cons,
    List.contains_nil, Bool.false_eq_true, or_false] at h
  obtain (h | rfl) | rfl | rfl | rfl := h
  · obtain ⟨n, hn, -⟩ := isDigitIn_iff.1 h
    exact toNat_lt_of_digitValue? hn
  all_goals decide

/-- **A part of a number is taken as it stands.** -/
lemma literal_part {c : Char} (h : isRealPart c = true) :
    Text.isWhiteSpace c = false ∧ (Text.decimalValue? c).elim c Decimal.digitChar = c := by
  have hall : ∀ n < 0x80, isRealPart (Char.ofNat n) = true →
      Text.isWhiteSpace (Char.ofNat n) = false ∧
        (Text.decimalValue? (Char.ofNat n)).elim (Char.ofNat n) Decimal.digitChar =
          Char.ofNat n := by
    decide +kernel
  have hc := hall c.toNat (toNat_lt_of_isRealPart h)
  rw [Char.ofNat_toNat] at hc
  exact hc h

lemma isRealPart_of_isMantissaPart {c : Char} (h : isMantissaPart c = true) :
    isRealPart c = true := by
  rw [isRealPart, h, Bool.true_or]

/-- A part of a mantissa is neither a sign nor a mark, and it begins no word. -/
lemma not_mem_of_isMantissaPart {c : Char} (h : isMantissaPart c = true) :
    c ∉ ['-', '+', 'e', 'E'] ∧ c.toLower ∉ ['i', 'n'] := by
  have hall : ∀ n < 0x80, isMantissaPart (Char.ofNat n) = true →
      Char.ofNat n ∉ ['-', '+', 'e', 'E'] ∧ (Char.ofNat n).toLower ∉ ['i', 'n'] := by
    decide +kernel
  have hc := hall c.toNat (toNat_lt_of_isRealPart (isRealPart_of_isMantissaPart h))
  rw [Char.ofNat_toNat] at hc
  exact hc h

lemma WritesMantissa.isMantissaPart {s : List Char} (h : WritesMantissa s) :
    ∀ c ∈ s, isMantissaPart c = true := by
  have hdigit {ds : List Char} (h : ∀ c ∈ ds, isDigitIn 10 c = true) :
      ∀ c ∈ ds, Literal.isMantissaPart c = true := fun c hc => by
    rw [Literal.isMantissaPart, h c hc, Bool.true_or]
  cases h with
  | whole h => exact hdigit h.isDigitIn
  | point hds hes _ =>
      exact List.forall_mem_append.2 ⟨hdigit hds, List.forall_mem_cons.2 ⟨by decide, hdigit hes⟩⟩

lemma WritesMantissa.ne_nil {s : List Char} (h : WritesMantissa s) : s ≠ [] := by
  cases h with
  | whole h => exact h.ne_nil
  | point => simp

lemma WritesExponent.isRealPart {exponent : List Char} (h : WritesExponent exponent) :
    ∀ c ∈ exponent, isRealPart c = true := by
  have hdigits {ds : List Char} (h : Digits 10 ds) : ∀ c ∈ ds, Literal.isRealPart c = true := by
    intro c hc
    rw [Literal.isRealPart, Literal.isMantissaPart, h.isDigitIn c hc, Bool.true_or, Bool.true_or]
  cases h with
  | none => exact List.forall_mem_nil _
  | plain h => exact List.forall_mem_cons.2 ⟨by decide, hdigits h⟩
  | signed hsign h =>
      refine List.forall_mem_cons.2 ⟨by decide, List.forall_mem_cons.2 ⟨?_, hdigits h⟩⟩
      obtain rfl | rfl := hsign <;> decide

/-! ### Reading them -/

lemma ne_point_of_isDigitIn {c : Char} (h : isDigitIn 10 c = true) : (c != '.') = true := by
  rw [bne_iff_ne]
  rintro rfl
  exact absurd h (by decide)

lemma plainDigits?_of_digits (h : ∀ c ∈ ds, isDigitIn 10 c = true) :
    ∃ es, plainDigits? ds = some es ∧ es.length = ds.length := by
  cases ds with
  | nil => exact ⟨[], rfl, rfl⟩
  | cons c ds =>
      obtain ⟨ns, hns, hlength⟩ := digitRun?_of_digits ⟨List.cons_ne_nil c ds, h⟩
      refine ⟨ns.map Decimal.digitChar, ?_, by rw [List.length_map, hlength]⟩
      rw [plainDigits?, hns]
      rfl

/-- **A mantissa is read**, whatever the exponent. -/
lemma scaled?_of_writesMantissa (negative : Bool) {s : List Char} (h : WritesMantissa s) (e : ℤ) :
    ∃ x, scaled? negative s e = some x := by
  cases h with
  | whole h =>
      obtain ⟨ns, hns, -⟩ := digitRun?_of_digits h
      have hpoint := fun c hc => ne_point_of_isDigitIn (h.isDigitIn c hc)
      simp only [scaled?, List.takeWhile_eq_self_iff.2 hpoint,
        List.dropWhile_eq_nil_iff.2 hpoint, hns]
      exact ⟨_, rfl⟩
  | @point ds es hds hes hne =>
      obtain ⟨ds', hds', hdslength⟩ := plainDigits?_of_digits hds
      obtain ⟨es', hes', heslength⟩ := plainDigits?_of_digits hes
      have hpoint := fun c hc => ne_point_of_isDigitIn (hds c hc)
      have htake : (ds ++ '.' :: es).takeWhile (· != '.') = ds := by
        rw [List.takeWhile_append_of_pos hpoint]
        simp
      have hdrop : (ds ++ '.' :: es).dropWhile (· != '.') = '.' :: es := by
        rw [List.dropWhile_append_of_pos hpoint]
        simp
      have hsome : (ds'.isEmpty && es'.isEmpty) = false := by
        rw [Bool.and_eq_false_iff, List.isEmpty_eq_false_iff, List.isEmpty_eq_false_iff,
          ← List.length_pos_iff_ne_nil, ← List.length_pos_iff_ne_nil, hdslength, heslength,
          List.length_pos_iff_ne_nil, List.length_pos_iff_ne_nil]
        exact hne
      simp only [scaled?, htake, hdrop, hds', hes', hsome, Bool.false_eq_true, if_false]
      exact ⟨_, rfl⟩

/-- **Numbers with a point and an exponent are read.** -/
theorem real?_append {mantissa exponent : List Char} (hmantissa : WritesMantissa mantissa)
    (hexponent : WritesExponent exponent) : ∃ x, real? (mantissa ++ exponent) = some x := by
  obtain ⟨c, rest, rfl⟩ := List.exists_cons_of_ne_nil hmantissa.ne_nil
  have hpart : ∀ d ∈ c :: rest ++ exponent, isRealPart d = true :=
    List.forall_mem_append.2 ⟨fun d hd => isRealPart_of_isMantissaPart
      (hmantissa.isMantissaPart d hd), hexponent.isRealPart⟩
  have htrim : Text.trimBy Text.isWhiteSpace (c :: rest ++ exponent) = c :: rest ++ exponent :=
    trimBy_eq_self fun d hd => (literal_part (hpart d hd)).1
  have hascii : asciiDigits (c :: rest ++ exponent) = c :: rest ++ exponent :=
    (List.map_congr_left fun d hd => (literal_part (hpart d hd)).2).trans (List.map_id' _)
  have hfirst := not_mem_of_isMantissaPart (hmantissa.isMantissaPart c List.mem_cons_self)
  simp only [List.mem_cons, List.not_mem_nil, or_false, not_or] at hfirst
  obtain ⟨⟨hminus, hplus, -, -⟩, hi, hn⟩ := hfirst
  have hmark : ∀ d ∈ c :: rest, (!(d == 'e' || d == 'E')) = true := by
    intro d hd
    have hd := (not_mem_of_isMantissaPart (hmantissa.isMantissaPart d hd)).1
    simp only [List.mem_cons, List.not_mem_nil, or_false, not_or] at hd
    simp [hd.2.2]
  have htake :
      (c :: rest ++ exponent).takeWhile (fun d => !(d == 'e' || d == 'E')) = c :: rest := by
    rw [List.takeWhile_append_of_pos hmark]
    cases hexponent <;> simp
  have hdrop : (c :: rest ++ exponent).dropWhile (fun d => !(d == 'e' || d == 'E')) = exponent := by
    rw [List.dropWhile_append_of_pos hmark]
    cases hexponent <;> simp
  have hsigned : signed (c :: rest ++ exponent) = (false, c :: rest ++ exponent) :=
    signed_of_ne hminus hplus _
  -- The first character tells the text from every word.
  have hword {d : Char} (hd : c.toLower ≠ d) (word : List Char) :
      ((c :: rest ++ exponent).map Char.toLower == d :: word) = false := by
    rw [beq_eq_false_iff_ne]
    exact fun heq => hd (List.cons.inj heq).1
  have hinf := hword hi ['n', 'f']
  have hinfinity := hword hi ['n', 'f', 'i', 'n', 'i', 't', 'y']
  have hnan := hword hn ['a', 'n']
  unfold real?
  rw [htrim, hascii, hsigned]
  dsimp only
  rw [htake, hdrop]
  change ∃ x, (if ((_ == ['i', 'n', 'f']) || (_ == ['i', 'n', 'f', 'i', 'n', 'i', 't', 'y'])) = true
    then _ else if (_ == ['n', 'a', 'n']) = true then _ else _) = some x
  rw [hinf, hinfinity, hnan, Bool.false_or, if_neg Bool.false_ne_true, if_neg Bool.false_ne_true]
  cases hexponent with
  | none => exact scaled?_of_writesMantissa false hmantissa 0
  | plain h =>
      obtain ⟨ns, hns, -⟩ := digitRun?_of_digits h
      simp only [signed_of_digits h, hns]
      exact scaled?_of_writesMantissa false hmantissa _
  | @signed sign ds hsign h =>
      obtain ⟨ns, hns, -⟩ := digitRun?_of_digits h
      obtain ⟨below, hbelow⟩ : ∃ below, Literal.signed (sign :: ds) = (below, ds) := by
        obtain rfl | rfl := hsign
        · exact ⟨false, rfl⟩
        · exact ⟨true, rfl⟩
      simp only [hbelow, hns]
      exact scaled?_of_writesMantissa false hmantissa _

end SqlFrontEnd.Literal
