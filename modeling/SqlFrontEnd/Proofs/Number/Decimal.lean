import Mathlib
import SqlFrontEnd.Number.Decimal

/-!
# Decimal notation, read back

What is written of a number is a run of digits that begins with a zero only where the number is
zero, so whoever reads numbers without needless zeros can read it.

* `isDigit_of_mem_digits`, `digits_ne_nil`, `head?_digits` — the shape of what is written.
* `length_digits_le_iff` — the numbers of so many digits.
* `integer?` — the integer that a text writes, with a minus sign or without.
* **`integer?_integerText`** — an integer is read back from its text.
* `append_integerText_injective`, `append_labelled_injective` — an integer at the end of a text is
  told apart from what is before it.
-/

namespace SqlFrontEnd.Decimal

lemma isDigit_digitChar {n : ℕ} (h : n < 10) : isDigit (digitChar n) = true := by
  revert n
  decide

/-- What is written are digits. -/
lemma isDigit_of_mem_digits {n : ℕ} {c : Char} (h : c ∈ digits n) : isDigit c = true := by
  induction n using digits.induct with
  | case1 n hn =>
      rw [digits, if_pos hn, List.mem_singleton] at h
      rw [h]
      exact isDigit_digitChar hn
  | case2 n hn ih =>
      rw [digits, if_neg hn, List.mem_append, List.mem_singleton] at h
      obtain h | rfl := h
      · exact ih h
      · exact isDigit_digitChar (Nat.mod_lt n (by decide))

lemma digits_ne_nil (n : ℕ) : digits n ≠ [] := by
  rw [digits]
  split <;> simp

/-- What is written begins with a digit. -/
lemma exists_digits_eq_cons (n : ℕ) : ∃ c ds, digits n = c :: ds ∧ isDigit c = true := by
  obtain ⟨c, ds, hds⟩ := List.exists_cons_of_ne_nil (digits_ne_nil n)
  refine ⟨c, ds, hds, isDigit_of_mem_digits (n := n) ?_⟩
  rw [hds]
  exact List.mem_cons_self

/-- **No needless zeros.**  Only zero itself begins with the digit zero. -/
lemma head?_digits {n : ℕ} (h : (digits n).head? = some '0') : n = 0 := by
  induction n using digits.induct with
  | case1 n hn =>
      rw [digits, if_pos hn, List.head?_cons, Option.some.injEq] at h
      have hvalue := digitValue_digitChar hn
      rw [h] at hvalue
      exact hvalue.symm
  | case2 n hn ih =>
      rw [digits, if_neg hn, List.head?_append_of_ne_nil _ (digits_ne_nil _)] at h
      have hquotient := ih h
      omega

lemma digits_zero : digits 0 = ['0'] := by
  rw [digits]
  rfl

/-- **The numbers of so many digits** are those below a power of ten. -/
lemma length_digits_le_iff (n k : ℕ) : (digits n).length ≤ k + 1 ↔ n < Nat.pow 10 (k + 1) := by
  have hpower (k : ℕ) : Nat.pow 10 (k + 1) = Nat.pow 10 k * 10 := rfl
  induction n using digits.induct generalizing k with
  | case1 n hn =>
      have hpos : 0 < Nat.pow 10 k := Nat.pow_pos (by decide)
      rw [digits, if_pos hn, List.length_singleton, hpower]
      exact ⟨fun _ => by omega, fun _ => Nat.le_add_left 1 k⟩
  | case2 n hn ih =>
      rw [digits, if_neg hn, List.length_append, List.length_singleton, Nat.add_le_add_iff_right]
      cases k with
      | zero =>
          have hnonempty := List.length_pos_iff.2 (digits_ne_nil (n / 10))
          exact ⟨fun h => absurd h (Nat.not_le.2 hnonempty), fun h => absurd h hn⟩
      | succ k => exact (ih k).trans (Nat.div_lt_iff_lt_mul (by decide))

/-! ## Integers -/

/-- The integer that a text writes: digits, with a minus sign before them or without. -/
def integer? : List Char → Option ℤ
  | '-' :: ds => if !ds.isEmpty && ds.all isDigit then some (-(value ds : ℤ)) else none
  | ds => if !ds.isEmpty && ds.all isDigit then some (value ds : ℤ) else none

/-- The text of an integer, as digits with a sign or without. -/
lemma toList_integerText (i : ℤ) :
    (integerText i).toList = if i < 0 then '-' :: digits i.natAbs else digits i.natAbs := by
  rw [integerText]
  split
  · simp [text, String.toList_append]
  · rw [text, String.toList_ofList]

/-- **Reading back.**  The text of an integer writes it. -/
theorem integer?_integerText (i : ℤ) : integer? (integerText i).toList = some i := by
  have hdigits : (!(digits i.natAbs).isEmpty && (digits i.natAbs).all isDigit) = true := by
    rw [Bool.and_eq_true, List.all_eq_true]
    exact ⟨by simp [digits_ne_nil], fun c hc => isDigit_of_mem_digits hc⟩
  rw [toList_integerText]
  split
  · rw [integer?, if_pos hdigits, value_digits]
    congr 1
    omega
  · obtain ⟨c, ds, hds, hc⟩ := exists_digits_eq_cons i.natAbs
    have hdash : c ≠ '-' := by
      rintro rfl
      cases hc
    have hplain : integer? (c :: ds) =
        if !(c :: ds).isEmpty && (c :: ds).all isDigit then some (value (c :: ds) : ℤ)
        else none := by
      rw [integer?]
      simpa using hdash
    rw [hds, hplain, ← hds, if_pos hdigits, value_digits]
    congr 1
    omega

lemma integerText_injective : Function.Injective integerText := by
  intro i j h
  have hread := integer?_integerText i
  rw [h, integer?_integerText, Option.some.injEq] at hread
  exact hread.symm

/-! ## Integers at the end of a text -/

/-- The characters of integers. -/
def IsIntegerPart (c : Char) : Prop := isDigit c = true ∨ c = '-'

instance : DecidablePred IsIntegerPart := fun _ => inferInstanceAs (Decidable (_ ∨ _))

lemma isIntegerPart_of_mem {i : ℤ} : ∀ c ∈ (integerText i).toList, IsIntegerPart c := by
  intro c hc
  rw [toList_integerText] at hc
  split at hc
  · exact (List.mem_cons.1 hc).symm.imp_left isDigit_of_mem_digits
  · exact .inl (isDigit_of_mem_digits hc)

/-- Where two texts agree that end in runs of a class, and what is before the runs ends in no
character of the class, they agree before the runs and in the runs. -/
lemma append_run_injective {p : Char → Prop} {s s' t t' : List Char} (hs : ∀ c ∈ s.getLast?, ¬ p c)
    (hs' : ∀ c ∈ s'.getLast?, ¬ p c) (ht : ∀ c ∈ t, p c) (ht' : ∀ c ∈ t', p c)
    (h : s ++ t = s' ++ t') : s = s' ∧ t = t' := by
  -- what one run has more would be at the end of the text before the other
  have hnone {before more run : List Char} (hbefore : ∀ c ∈ (before ++ more).getLast?, ¬ p c)
      (hrun : ∀ c ∈ more ++ run, p c) : more = [] := by
    by_contra hmore
    have hlast : more.getLast hmore ∈ (before ++ more).getLast? := by
      rw [List.getLast?_append_of_ne_nil _ hmore, List.getLast?_eq_some_getLast hmore]
      rfl
    exact hbefore _ hlast (hrun _ (List.mem_append_left _ (List.getLast_mem hmore)))
  obtain ⟨more, rfl, rfl⟩ | ⟨more, rfl, rfl⟩ := List.append_eq_append_iff.1 h
  · obtain rfl := hnone hs' ht
    simp
  · obtain rfl := hnone hs ht'
    simp

/-- **An integer at the end of a text** is told apart from what is before it, where that does not
end in a digit or a sign. -/
lemma append_integerText_injective {s s' : List Char} {i i' : ℤ}
    (hs : ∀ c ∈ s.getLast?, ¬ IsIntegerPart c) (hs' : ∀ c ∈ s'.getLast?, ¬ IsIntegerPart c)
    (h : s ++ (integerText i).toList = s' ++ (integerText i').toList) : s = s' ∧ i = i' := by
  obtain ⟨hbefore, hrun⟩ :=
    append_run_injective hs hs' isIntegerPart_of_mem isIntegerPart_of_mem h
  exact ⟨hbefore, integerText_injective (String.toList_injective hrun)⟩

/-- **An integer behind a label**, which a space ends, is told apart from what is before both. -/
lemma append_labelled_injective {label s s' : List Char} {i i' : ℤ}
    (hlabel : label.getLast? = some ' ')
    (h : s ++ label ++ (integerText i).toList = s' ++ label ++ (integerText i').toList) :
    s = s' ∧ i = i' := by
  have hend (before : List Char) : ∀ c ∈ (before ++ label).getLast?, ¬ IsIntegerPart c := by
    rw [List.getLast?_append, hlabel]
    rintro c ⟨⟩
    decide
  obtain ⟨hbefore, hi⟩ := append_integerText_injective (hend s) (hend s') h
  exact ⟨List.append_cancel_right hbefore, hi⟩

end SqlFrontEnd.Decimal
