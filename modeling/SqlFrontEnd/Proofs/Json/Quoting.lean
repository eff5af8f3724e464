import Mathlib
import SqlFrontEnd.Json.Reader
import SqlFrontEnd.Json.Writer

/-!
# Strings, spelled and read

A string is spelled character by character: each of them as it is, behind a backslash by a letter,
or behind a backslash by number.  Reading undoes this in the same steps, whichever way was chosen.
Only the numbers need care: a character above `U+FFFF` has two of them, and these are the two halves
of a pair, while the one number of any other character is never such a half.  A writer has one
spelling for each character, so what it writes is read back.

* `content?_quote`, `content?_escape`, `content?_plain` — the three ways in which reading goes on.
* `WritesUnit`, `unit?_append`, `numbered?_single`, `numbered?_pair` — numbers in escapes.
* `SpellsChar`, `SpellsText` — the spellings of a character and of a text.
* **`content?_append_quote`** — every spelling of a text is read as that text.
* `spellsChar_escapedChar`, **`content?_quotedText`** — what is written is one of them.
-/

namespace SqlFrontEnd

namespace Text

lemma ofChars_append (s t : List Char) : ofChars (s ++ t) = ofChars s ++ ofChars t :=
  List.map_append

/-- A text without lone halves consists of characters. -/
lemma exists_chars_of_isScalar {s : Text} (h : s.isScalar = true) : ∃ cs, s = ofChars cs := by
  induction s with
  | nil => exact ⟨[], rfl⟩
  | cons c s ih =>
      rw [isScalar, List.all_cons, Bool.and_eq_true] at h
      obtain ⟨hc, hs⟩ := h
      obtain ⟨cs, rfl⟩ := ih hs
      cases c with
      | char c => exact ⟨c :: cs, rfl⟩
      | surrogate half => cases hc

@[simp] lemma isScalar_ofChars (cs : List Char) : isScalar (ofChars cs) = true := by
  simp [isScalar, ofChars, CodePoint.char?]

end Text

namespace Json

open Text

/-! ## How reading goes on -/

lemma content?_quote (s : Text) : content? (.char '"' :: s) = some ([], s) := by
  rw [content?, if_pos rfl]

lemma content?_escape {s t : Text} {d : CodePoint} (h : escape? s = some (d, t)) :
    content? (.char '\\' :: s) = (content? t).map fun r => (d :: r.1, r.2) := by
  rw [content?, if_neg (by decide), if_pos rfl]
  split
  · next h' =>
    rw [h] at h'
    cases h'
    rfl
  · next h' => rw [h] at h'; cases h'

lemma content?_plain {c : Char} (hquote : c ≠ '"') (hslash : c ≠ '\\') (hcontrol : 0x20 ≤ c.toNat)
    (s : Text) : content? (.char c :: s) = (content? s).map fun r => (.char c :: r.1, r.2) := by
  have hplain : CodePoint.holds isControl (.char c) = false := by
    rw [CodePoint.holds_char, isControl, decide_eq_false_iff_not]
    omega
  rw [content?, if_neg (by simpa using hquote), if_neg (by simpa using hslash), hplain]
  rfl

/-! ## Numbers in escapes -/

/-- Four hexadecimal digits, of either case, that write a number. -/
structure WritesUnit (ds : List Char) (n : ℕ) : Prop where
  length_eq : ds.length = 4
  value?_eq : Hexadecimal.value? ds = some n

lemma writesUnit_padded {n : ℕ} (h : n < 0x10000) : WritesUnit (Hexadecimal.padded 4 n) n :=
  ⟨Hexadecimal.length_padded 4 n, Hexadecimal.value?_padded h⟩

lemma unit?_append {ds : List Char} {n : ℕ} (h : WritesUnit ds n) (rest : Text) :
    unit? (ofChars ds ++ rest) = some (n, rest) := by
  obtain ⟨hlength, hvalue⟩ := h
  match ds, hlength with
  | [a, b, c, d], _ =>
      change (Hexadecimal.value? [a, b, c, d]).map (·, rest) = _
      rw [hvalue]
      rfl

/-- The one number of a character stands for it. -/
lemma numbered?_single {ds : List Char} {c : Char} (h : WritesUnit ds c.toNat) (rest : Text) :
    numbered? (ofChars ds ++ rest) = some (.char c, rest) := by
  have hvalid : c.toNat < 0xD800 ∨ 0xDFFF < c.toNat ∧ c.toNat < 0x110000 := c.valid
  rw [numbered?, unit?_append h]
  dsimp only
  rw [if_neg (by omega), CodePoint.ofNumber?, dif_neg (by omega), if_pos (by omega),
    Char.ofNat_toNat]
  rfl

/-- The numbers of the two halves of a pair stand for one character. -/
lemma numbered?_pair {ds es : List Char} {high low : ℕ} (hds : WritesUnit ds (0xD800 + high))
    (hes : WritesUnit es (0xDC00 + low)) (hhigh : high < 0x400) (hlow : low < 0x400)
    (rest : Text) :
    numbered? (ofChars ds ++ (ofChars ('\\' :: 'u' :: es) ++ rest)) =
      some (.char (Char.ofNat (0x10000 + high * 0x400 + low)), rest) := by
  have hhalf : lowHalf? (ofChars ('\\' :: 'u' :: es) ++ rest) = some (0xDC00 + low, rest) := by
    change (unit? (ofChars es ++ rest)).filter _ = _
    rw [unit?_append hes, Option.filter_some, if_pos]
    simp
    omega
  rw [numbered?, unit?_append hds]
  dsimp only
  rw [if_pos (by omega), hhalf]
  dsimp only
  rw [Nat.add_sub_cancel_left, Nat.add_sub_cancel_left]

/-- A number behind a backslash. -/
lemma escape?_numbered (s : Text) : escape? (.char 'u' :: s) = numbered? s := rfl

/-! ## Spellings -/

/-- The letters that stand for a character behind a backslash. -/
def letters : List (Char × Char) :=
  [('"', '"'), ('\\', '\\'), ('/', '/'), ('b', '\x08'), ('f', '\x0C'), ('n', '\n'), ('r', '\r'),
    ('t', '\t')]

/-- The spellings of a character. -/
inductive SpellsChar (c : Char) : List Char → Prop
  | itself (hquote : c ≠ '"') (hslash : c ≠ '\\') (hcontrol : 0x20 ≤ c.toNat) : SpellsChar c [c]
  | letter {letter : Char} (h : (letter, c) ∈ letters) : SpellsChar c ['\\', letter]
  | number {ds : List Char} (h : WritesUnit ds c.toNat) : SpellsChar c ('\\' :: 'u' :: ds)
  | pair {ds es : List Char} {high low : ℕ} (hds : WritesUnit ds (0xD800 + high))
      (hes : WritesUnit es (0xDC00 + low)) (hhigh : high < 0x400) (hlow : low < 0x400)
      (hc : c.toNat = 0x10000 + high * 0x400 + low) :
      SpellsChar c ('\\' :: 'u' :: ds ++ '\\' :: 'u' :: es)

/-- The spellings of a text, without the quotes around it. -/
inductive SpellsText : List Char → List Char → Prop
  | nil : SpellsText [] []
  | cons {c : Char} {s cs t : List Char} (hc : SpellsChar c s) (hcs : SpellsText cs t) :
      SpellsText (c :: cs) (s ++ t)

lemma escape?_letter {letter c : Char} (h : (letter, c) ∈ letters) (rest : Text) :
    escape? (.char letter :: rest) = some (.char c, rest) := by
  simp only [letters, List.mem_cons, Prod.mk.injEq, List.not_mem_nil, or_false] at h
  obtain ⟨rfl, rfl⟩ | ⟨rfl, rfl⟩ | ⟨rfl, rfl⟩ | ⟨rfl, rfl⟩ | ⟨rfl, rfl⟩ | ⟨rfl, rfl⟩ | ⟨rfl, rfl⟩ |
    ⟨rfl, rfl⟩ := h <;> rfl

/-- **Every spelling of a character** is read as that character. -/
lemma content?_append {c : Char} {s : List Char} (h : SpellsChar c s) (rest : Text) :
    content? (ofChars s ++ rest) = (content? rest).map fun r => (.char c :: r.1, r.2) := by
  cases h with
  | itself hquote hslash hcontrol => exact content?_plain hquote hslash hcontrol rest
  | letter h => exact content?_escape (escape?_letter h rest)
  | @number ds h =>
      refine content?_escape ?_
      change escape? (.char 'u' :: (ofChars ds ++ rest)) = _
      rw [escape?_numbered, numbered?_single h]
  | @pair ds es high low hds hes hhigh hlow hc =>
      rw [ofChars_append, List.append_assoc]
      refine content?_escape ?_
      change escape? (.char 'u' :: (ofChars ds ++ (ofChars ('\\' :: 'u' :: es) ++ rest))) = _
      rw [escape?_numbered, numbered?_pair hds hes hhigh hlow, ← hc, Char.ofNat_toNat]

/-- **Every spelling of a text** is read as that text, up to the quote behind it. -/
theorem content?_append_quote {cs t : List Char} (h : SpellsText cs t) (rest : Text) :
    content? (ofChars t ++ .char '"' :: rest) = some (ofChars cs, rest) := by
  induction h with
  | nil => exact content?_quote rest
  | cons hc _ ih =>
      rw [ofChars_append, List.append_assoc, content?_append hc, ih]
      rfl

/-! ## What is written -/

/-- What is written of a character spells it. -/
lemma spellsChar_escapedChar (c : Char) : SpellsChar c (escapedChar c) := by
  have hvalid : c.toNat < 0xD800 ∨ 0xDFFF < c.toNat ∧ c.toNat < 0x110000 := c.valid
  rw [escapedChar]
  split_ifs with h₁ h₂ h₃ h₄ h₅ h₆ h₇ h₈
  · subst h₁; exact .letter (by decide)
  · subst h₂; exact .letter (by decide)
  · subst h₃; exact .letter (by decide)
  · subst h₄; exact .letter (by decide)
  · subst h₅; exact .letter (by decide)
  · subst h₆; exact .letter (by decide)
  · subst h₇; exact .letter (by decide)
  · exact .itself h₁ h₂ h₈.1
  · exact .number (writesUnit_padded (by omega))
  · exact .pair (writesUnit_padded (by omega)) (writesUnit_padded (by omega)) (by omega)
      (Nat.mod_lt _ (by decide)) (by omega)

/-- What is written of a text spells it. -/
lemma spellsText_escaped (cs : List Char) : SpellsText cs ((ofChars cs).flatMap escaped) := by
  induction cs with
  | nil => exact .nil
  | cons c cs ih => exact .cons (spellsChar_escapedChar c) ih

/-- **A text between quotes is read back**, whatever comes after it. -/
theorem content?_quotedText {s : Text} (h : s.isScalar = true) (rest : Text) :
    content? (ofChars (s.flatMap escaped ++ ['"']) ++ rest) = some (s, rest) := by
  obtain ⟨cs, rfl⟩ := exists_chars_of_isScalar h
  rw [ofChars_append, List.append_assoc]
  exact content?_append_quote (spellsText_escaped cs) rest

end Json

end SqlFrontEnd
