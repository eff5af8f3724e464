import Mathlib
import SqlFrontEnd.Text.Quoted

/-!
# Quoted text, read back

Between quotes a code point stands in one of several forms: as itself, behind a backslash by a
letter, or behind a backslash by number, with two, four or eight digits.  The forms overlap in
their first characters, but their lengths tell them apart, so the code point can be read back.

* `CodePoint.ofNumber?_number` — a code point is the one of its number.
* `ofShown?` — the code point that stands between quotes in a given form.
* **`ofShown?_shown`** — what is shown of a code point is read as that code point.
* `isPrintable_of_mem_shown` — what is shown can be printed.
* `quoted_singleton`, `quoted_singleton_injective` — a single code point in quotes.
-/

namespace SqlFrontEnd

/-- The number of a code point leads back to it. -/
lemma CodePoint.ofNumber?_number (c : CodePoint) : CodePoint.ofNumber? c.number = some c := by
  cases c with
  | char c =>
      have hvalid : c.toNat < 0xD800 ∨ 0xDFFF < c.toNat ∧ c.toNat < 0x110000 := c.valid
      have hhalf : ¬ (0xD800 ≤ c.toNat ∧ c.toNat < 0xE000) := by omega
      rw [CodePoint.number, CodePoint.ofNumber?, dif_neg hhalf, if_pos (by omega), Char.ofNat_toNat]
  | surrogate half =>
      have hhalf : 0xD800 ≤ 0xD800 + half.val ∧ 0xD800 + half.val < 0xE000 := by omega
      rw [CodePoint.number, CodePoint.ofNumber?, dif_pos hhalf]
      exact congrArg (some ∘ surrogate) (Fin.ext (Nat.add_sub_cancel_left _ _))

lemma CodePoint.number_lt (c : CodePoint) : c.number < 0x110000 := by
  cases c with
  | char c =>
      have hvalid : c.toNat < 0xD800 ∨ 0xDFFF < c.toNat ∧ c.toNat < 0x110000 := c.valid
      show c.toNat < _
      omega
  | surrogate half =>
      show 0xD800 + half.val < _
      omega

namespace Text

/-! ## Reading back -/

/-- The character that a backslash and a letter stand for. -/
def ofLetter (c : Char) : Char :=
  if c = 't' then '\t' else if c = 'n' then '\n' else if c = 'r' then '\r' else c

/-- The code point that stands between two single quotes in the given form. -/
def ofShown? : List Char → Option CodePoint
  | [] => none
  | [c] => some c
  | [_, c] => some (ofLetter c)
  | _ :: _ :: ds => (Hexadecimal.value? ds).bind CodePoint.ofNumber?

/-- A form with two digits or more is one by number. -/
lemma ofShown?_cons_cons {c d : Char} {ds : List Char} (h : 0 < ds.length) :
    ofShown? (c :: d :: ds) = (Hexadecimal.value? ds).bind CodePoint.ofNumber? := by
  cases ds with
  | nil => exact absurd h (Nat.lt_irrefl 0)
  | cons e ds => rfl

lemma ofShown?_padded {c d : Char} {width n : ℕ} (hwidth : 0 < width) (hn : n < Nat.pow 16 width) :
    ofShown? (c :: d :: Hexadecimal.padded width n) = CodePoint.ofNumber? n := by
  rw [ofShown?_cons_cons (by rwa [Hexadecimal.length_padded]), Hexadecimal.value?_padded hn]
  rfl

/-- A number is read back, however many digits its size asks for. -/
lemma ofShown?_numbered {n : ℕ} (h : n < 0x110000) :
    ofShown? (numbered n) = CodePoint.ofNumber? n := by
  rw [numbered]
  split_ifs with htwo hfour
  · exact ofShown?_padded (by decide) htwo
  · exact ofShown?_padded (by decide) hfour
  · exact ofShown?_padded (by decide) (h.trans (by decide))

/-- **Reading back.**  What is shown of a code point between single quotes is read as that code
point. -/
theorem ofShown?_shown (c : CodePoint) : ofShown? (shown '\'' c) = some c := by
  have hnumber : ofShown? (numbered c.number) = some c := by
    rw [ofShown?_numbered c.number_lt, CodePoint.ofNumber?_number]
  cases c with
  | surrogate half => exact hnumber
  | char c =>
      rw [shown, shownChar]
      split_ifs with hmark htab hnewline hreturn hprintable
      · obtain rfl | rfl := hmark <;> rfl
      · rw [htab]; rfl
      · rw [hnewline]; rfl
      · rw [hreturn]; rfl
      · rfl
      · exact hnumber

example : ofShown? ['\\', 'u', '2', '0', '0', 'b'] = some (.char '\u200b') := by decide

lemma shown_injective : Function.Injective (shown '\'') := by
  intro c d h
  have hread := ofShown?_shown c
  rw [h, ofShown?_shown d, Option.some.injEq] at hread
  exact hread.symm

/-! ## What is shown can be printed -/

lemma isPrintable_of_mem_padded {width n : ℕ} {c : Char} (h : c ∈ Hexadecimal.padded width n) :
    isPrintable c = true := by
  have hdigit : ∀ d < 16, isPrintable (Hexadecimal.digitChar d) = true := by decide
  induction width generalizing n with
  | zero => cases h
  | succ width ih =>
      rw [Hexadecimal.padded, List.mem_append, List.mem_singleton] at h
      obtain h | rfl := h
      · exact ih h
      · exact hdigit _ (Nat.mod_lt n (by decide))

lemma isPrintable_of_mem_numbered {n : ℕ} {c : Char} (h : c ∈ numbered n) :
    isPrintable c = true := by
  have hform (letter : Char) (hletter : isPrintable letter = true) (width : ℕ) :
      ∀ c ∈ '\\' :: letter :: Hexadecimal.padded width n, isPrintable c = true := by
    rw [List.forall_mem_cons, List.forall_mem_cons]
    exact ⟨by decide, hletter, fun c hc => isPrintable_of_mem_padded hc⟩
  rw [numbered] at h
  split_ifs at h
  · exact hform 'x' (by decide) 2 c h
  · exact hform 'u' (by decide) 4 c h
  · exact hform 'U' (by decide) 8 c h

/-- **What is shown can be printed**, whatever it is shown of. -/
lemma isPrintable_of_mem_shown {mark : Char} (hmark : isPrintable mark = true) {x : CodePoint}
    {c : Char} (h : c ∈ shown mark x) : isPrintable c = true := by
  have hletter (letter : Char) (hprintable : isPrintable letter = true) :
      ∀ c ∈ ['\\', letter], isPrintable c = true := by
    rw [List.forall_mem_cons, List.forall_mem_singleton]
    exact ⟨by decide, hprintable⟩
  cases x with
  | surrogate half => exact isPrintable_of_mem_numbered h
  | char x =>
      rw [shown, shownChar] at h
      split_ifs at h with hquote _ _ _ hprintable
      · refine hletter x ?_ c h
        obtain rfl | rfl := hquote
        · decide
        · exact hmark
      · exact hletter 't' (by decide) c h
      · exact hletter 'n' (by decide) c h
      · exact hletter 'r' (by decide) c h
      · rwa [List.mem_singleton.1 h]
      · exact isPrintable_of_mem_numbered h

/-! ## A single code point -/

lemma quotedWith_singleton (mark : Char) (c : CodePoint) :
    quotedWith mark [c] = mark :: (shown mark c ++ [mark]) := by
  rw [quotedWith, List.flatMap_singleton, List.cons_append]

/-- Only a quote is quoted by other marks. -/
lemma quoted_singleton {c : CodePoint} (h : c ≠ .char '\'') :
    quoted [c] = String.ofList (quotedWith '\'' [c]) := by
  have hmark : quoteMark [c] = '\'' := by
    rw [quoteMark, if_neg]
    simp [h.symm]
  rw [quoted, hmark]

/-- A single code point in quotes can be told. -/
lemma quoted_singleton_injective {c d : CodePoint} (h : quoted [c] = quoted [d]) : c = d := by
  -- the quote is the only one that has double quotes around it
  have hquote {c : CodePoint} (hc : c ≠ .char '\'') : quoted [c] ≠ quoted [.char '\''] := by
    rw [quoted_singleton hc, quotedWith_singleton]
    intro heq
    have hhead := congrArg String.toList heq
    rw [String.toList_ofList] at hhead
    cases hhead
  by_cases hc : c = .char '\''
  · by_cases hd : d = .char '\''
    · rw [hc, hd]
    · rw [hc] at h
      exact absurd h.symm (hquote hd)
  · by_cases hd : d = .char '\''
    · rw [hd] at h
      exact absurd h (hquote hc)
    · rw [quoted_singleton hc, quoted_singleton hd, quotedWith_singleton, quotedWith_singleton] at h
      have hchars := String.ofList_injective h
      rw [List.cons.injEq] at hchars
      exact shown_injective (List.append_cancel_right hchars.2)

end Text

end SqlFrontEnd
