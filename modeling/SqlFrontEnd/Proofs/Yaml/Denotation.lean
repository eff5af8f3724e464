import Mathlib
import SqlFrontEnd.Proofs.Number.Literal
import SqlFrontEnd.Yaml.Value

/-!
# Texts that denote something

A text of a kind that is no text denotes a value of that kind if it is spelled like one: a switch by
one of six words, a number by its digits, and a date by its parts, which have their bounds.  Signs
may precede numbers, and underscores may group their digits.  What is spelled so is read.

* `WritesInteger`, `WritesReal` — the spellings of numbers without signs.
* `Timestamp.InBounds` — the timestamps that there are.
* `Denotes` — the texts that denote something of a kind.
* `readInt_of_denotes`, `readReal_of_denotes`, `readBool_of_denotes`, `readTimestamp_of_denotes` —
  they are read.
-/

namespace SqlFrontEnd

namespace Yaml

open Literal (Digits isDigitIn)

/-! ## Spellings -/

/-- The signs of numbers, none among them. -/
def signs : List (List Char) := [[], ['+'], ['-']]

/-- The integers without signs and underscores: digits behind the mark of a base, octal digits
behind a zero, and decimal digits, which colons may part into the places of a number to base
sixty. -/
inductive WritesInteger : List Char → Prop
  | binary {ds : List Char} (h : Digits 2 ds) : WritesInteger ('0' :: 'b' :: ds)
  | hexadecimal {ds : List Char} (h : Digits 16 ds) : WritesInteger ('0' :: 'x' :: ds)
  | octal {ds : List Char} (h : ∀ c ∈ ds, isDigitIn 8 c = true) : WritesInteger ('0' :: ds)
  | decimal {s : List Char} (hzero : s.head? ≠ some '0')
      (h : ∀ part ∈ Text.splitAt ':' s, Digits 10 part ∧ part.length ≤ Literal.maxDigits) :
      WritesInteger s

/-- The most places of a floating-point number to base sixty. -/
def maxPlaces : ℕ := 174

/-- The floating-point numbers without signs and underscores, in small letters: an infinite one, the
sign for what is no number, and decimal numbers, which colons may part into places. -/
inductive WritesReal : List Char → Prop
  | infinite : WritesReal ['.', 'i', 'n', 'f']
  | notANumber : WritesReal ['.', 'n', 'a', 'n']
  | decimal {s : List Char} (hlength : (Text.splitAt ':' s).length ≤ maxPlaces)
      (h : ∀ part ∈ Text.splitAt ':' s, ∃ mantissa exponent, part = mantissa ++ exponent ∧
        Literal.WritesMantissa mantissa ∧ Literal.WritesExponent exponent) : WritesReal s

/-- The timestamps that there are. -/
structure Timestamp.InBounds (t : Timestamp) : Prop where
  year : 1 ≤ t.year
  month : 1 ≤ t.month ∧ t.month ≤ 12
  day : 1 ≤ t.day ∧ t.day ≤ daysIn t.year t.month
  clock : ∀ time ∈ t.time, time.hour < 24 ∧ time.minute < 60 ∧ time.second < 60
  offset : ∀ time ∈ t.time, ∀ minutes ∈ time.offset, minutes.natAbs < 1440

/-- The texts that denote something of a kind.  Nothing is asked of a text that is to be nothing or
a text, or a sign of the format itself, nor of one that is to be octets or a collection: it can only
fail to be well-formed. -/
inductive Denotes : Kind → Text → Prop
  | any {kind : Kind} {text : Text}
      (h : kind ∉ [Kind.bool, .int, .float, .timestamp]) : Denotes kind text
  | bool {text : Text} {word : String} (hword : word ∈ switchWords.map Prod.fst)
      (htext : Text.lower text = Text.ofString word) : Denotes .bool text
  | int {text : Text} {sign s : List Char} (hsign : sign ∈ signs) (h : WritesInteger s)
      (htext : Value.ungrouped text = Text.ofChars (sign ++ s)) : Denotes .int text
  | float {text : Text} {sign s : List Char} (hsign : sign ∈ signs) (h : WritesReal s)
      (htext : Text.lower (Value.ungrouped text) = Text.ofChars (sign ++ s)) : Denotes .float text
  | timestamp {text : Text} {t : Timestamp}
      (htext : Timestamp.read? (Text.withoutFinalNewline text.toChars) = some t)
      (h : t.InBounds) : Denotes .timestamp text

/-! ## Reading them -/

variable {text : Text}

/-- The parts of a text of characters. -/
lemma splitAt_ofChars (separator : Char) (s : List Char) :
    Text.splitAt (.char separator) (Text.ofChars s) =
      (Text.splitAt separator s).map Text.ofChars := by
  induction s with
  | nil => rfl
  | cons c s ih =>
      have hcons : Text.ofChars (c :: s) = .char c :: Text.ofChars s := rfl
      rw [hcons, Text.splitAt, Text.splitAt, ih]
      by_cases hc : c = separator
      · rw [if_pos hc, if_pos (congrArg CodePoint.char hc)]
        rfl
      · rw [if_neg hc, if_neg fun h => hc (CodePoint.char.inj h)]
        cases Text.splitAt separator s <;> rfl

/-- A list is read where each of its members is. -/
lemma exists_mapM_eq_ok {α β : Type} {f : α → Except Fault β} {xs : List α}
    (h : ∀ x ∈ xs, ∃ y, f x = .ok y) : ∃ ys, xs.mapM f = .ok ys ∧ ys.length = xs.length := by
  induction xs with
  | nil => exact ⟨[], rfl, rfl⟩
  | cons x xs ih =>
      obtain ⟨⟨y, hy⟩, hxs⟩ := List.forall_mem_cons.1 h
      obtain ⟨ys, hys, hlength⟩ := ih hxs
      exact ⟨y :: ys, by rw [List.mapM_cons, hy, hys]; rfl, congrArg (· + 1) hlength⟩

/-- A sign is taken off, where the text behind it begins with none. -/
lemma signed_ofChars {sign s : List Char} (hsign : sign ∈ signs)
    (hs : s.head? ≠ some '-' ∧ s.head? ≠ some '+') :
    ∃ negative, Value.signed (Text.ofChars (sign ++ s)) = (negative, Text.ofChars s) := by
  simp only [signs, List.mem_cons, List.not_mem_nil, or_false] at hsign
  obtain rfl | rfl | rfl := hsign
  · refine ⟨false, ?_⟩
    cases s with
    | nil => rfl
    | cons c s =>
        change Value.signed (.char c :: Text.ofChars s) = _
        unfold Value.signed
        split
        · next heq => simp at heq hs; exact absurd heq.1 hs.1
        · next heq => simp at heq hs; exact absurd heq.1 hs.2
        · rfl
  · exact ⟨false, rfl⟩
  · exact ⟨true, rfl⟩

/-! ### Integers -/

lemma integerIn_ofChars {base : ℕ} (hbase : base ∈ Literal.bases) {ds : List Char}
    (h : Digits base ds) (hlength : base = 10 → ds.length ≤ Literal.maxDigits) :
    ∃ i, Value.integerIn base (Text.ofChars ds) = .ok i := by
  obtain ⟨i, hi⟩ := Literal.integer_of_digits hbase h hlength
  rw [Value.integerIn, Text.toChars_ofChars, hi]
  exact ⟨i, rfl⟩

/-- A digit is none of the characters that mean something else. -/
lemma ne_of_isDigitIn {base : ℕ} {c d : Char} (hc : isDigitIn base c = true)
    (hd : isDigitIn base d = false) : c ≠ d := by
  rintro rfl
  rw [hc] at hd
  cases hd

/-- A text whose first part is a row of digits begins with one. -/
lemma exists_head_of_digits {base : ℕ} {s : List Char}
    (h : ∀ part ∈ Text.splitAt ':' s, Digits base part) :
    ∃ c t, s = c :: t ∧ isDigitIn base c = true := by
  cases s with
  | nil => exact absurd rfl (h [] (by simp [Text.splitAt])).ne_nil
  | cons c s =>
      refine ⟨c, s, rfl, ?_⟩
      rw [Text.splitAt] at h
      split_ifs at h with hc
      · exact absurd rfl (h [] List.mem_cons_self).ne_nil
      · split at h
        · exact (h _ List.mem_cons_self).isDigitIn c List.mem_cons_self
        · exact (h _ List.mem_cons_self).isDigitIn c List.mem_cons_self

/-- **Integers are read** behind their signs. -/
lemma magnitude_of_writesInteger {s : List Char} (h : WritesInteger s) :
    ∃ i, Value.magnitude (Text.ofChars s) = .ok i := by
  cases h with
  | binary h => exact integerIn_ofChars (by decide) h (by simp)
  | hexadecimal h => exact integerIn_ofChars (by decide) h (by simp)
  | @octal ds h =>
      cases ds with
      | nil => exact ⟨0, rfl⟩
      | cons d ds =>
          have hdigits : Digits 8 ('0' :: d :: ds) :=
            ⟨List.cons_ne_nil _ _, List.forall_mem_cons.2 ⟨by decide, h⟩⟩
          obtain ⟨i, hi⟩ := integerIn_ofChars (by decide) hdigits (by simp)
          have hd := h d List.mem_cons_self
          have hb : d ≠ 'b' := ne_of_isDigitIn hd (by decide)
          have hx : d ≠ 'x' := ne_of_isDigitIn hd (by decide)
          refine ⟨i, ?_⟩
          change Value.magnitude (.char '0' :: .char d :: Text.ofChars ds) = _
          rw [Value.magnitude]
          · exact hi
          all_goals simp [hb, hx]
  | @decimal s hzero h =>
      have hpart : ∀ part ∈ (Text.splitAt ':' s).map Text.ofChars,
          ∃ i, Value.integerIn 10 part = .ok i := by
        rw [List.forall_mem_map]
        exact fun part hp => integerIn_ofChars (by decide) (h part hp).1 fun _ => (h part hp).2
      obtain ⟨places, hplaces, -⟩ := exists_mapM_eq_ok hpart
      obtain ⟨c, t, rfl, -⟩ := exists_head_of_digits fun part hp => (h part hp).1
      have hc : c ≠ '0' := fun hc => hzero (congrArg some hc)
      have hmagnitude : Value.magnitude (Text.ofChars (c :: t)) =
          if (Text.ofChars (c :: t)).contains (.char ':') then do
            let parts := Text.splitAt (.char ':') (Text.ofChars (c :: t))
            let places ← parts.mapM (Value.integerIn 10)
            return places.foldl (fun n d => 60 * n + d) 0
          else Value.integerIn 10 (Text.ofChars (c :: t)) := by
        change Value.magnitude (.char c :: Text.ofChars t) = _
        rw [Value.magnitude]
        · rfl
        all_goals simp [hc]
      rw [hmagnitude]
      dsimp only
      rw [splitAt_ofChars]
      split_ifs with hcolon
      · rw [hplaces]
        exact ⟨_, rfl⟩
      · have hnot : ':' ∉ c :: t := by
          intro hmem
          refine hcolon (List.contains_iff_mem.2 ?_)
          exact List.mem_map_of_mem hmem
        rw [Text.splitAt_of_not_mem hnot] at hpart
        exact hpart _ (List.mem_singleton_self _)

/-- An integer begins with a digit. -/
lemma WritesInteger.head {s : List Char} (h : WritesInteger s) :
    s.head? ≠ some '-' ∧ s.head? ≠ some '+' := by
  cases h with
  | binary | hexadecimal | octal => simp
  | @decimal s _ h =>
      obtain ⟨c, t, rfl, hc⟩ := exists_head_of_digits fun part hp => (h part hp).1
      have hliteral := Literal.literal_digit hc
      simp [hliteral.ne_minus, hliteral.ne_plus]

/-- **Integers are read.** -/
lemma readInt_of_denotes (h : Denotes .int text) : ∃ i, Value.readInt text = .ok i := by
  cases h with
  | any h => exact absurd (by decide) h
  | @int _ sign s hsign h htext =>
      obtain ⟨negative, hsigned⟩ := signed_ofChars hsign h.head
      obtain ⟨i, hi⟩ := magnitude_of_writesInteger h
      simp only [Value.readInt, htext, hsigned, hi]
      exact ⟨_, rfl⟩

/-! ### Floating-point numbers -/

/-- The weight of each place is a number of the format. -/
lemma isFinite_weight : ∀ k < maxPlaces, (Binary64.ofInt (Nat.pow 60 k : ℕ)).isFinite = true := by
  decide +kernel

/-- The places of a number are added up. -/
lemma addPlaces_eq_ok {k : ℕ} (xs : List Binary64) (h : k + xs.length ≤ maxPlaces)
    (sum : Binary64) : ∃ x, Value.addPlaces (Nat.pow 60 k) sum xs = .ok x := by
  induction xs generalizing k sum with
  | nil => exact ⟨sum, rfl⟩
  | cons x xs ih =>
      rw [List.length_cons] at h
      have hfinite := isFinite_weight k (by omega)
      have hnext : 60 * Nat.pow 60 k = Nat.pow 60 (k + 1) := Nat.mul_comm _ _
      rw [Value.addPlaces, if_pos hfinite, hnext]
      exact ih (by omega) _

lemma realIn_ofChars {mantissa exponent : List Char} (hmantissa : Literal.WritesMantissa mantissa)
    (hexponent : Literal.WritesExponent exponent) :
    ∃ x, Value.realIn (Text.ofChars (mantissa ++ exponent)) = .ok x := by
  obtain ⟨x, hx⟩ := Literal.real?_append hmantissa hexponent
  rw [Value.realIn, Text.toChars_ofChars, hx]
  exact ⟨x, rfl⟩

/-- **Floating-point numbers are read** behind their signs. -/
lemma realMagnitude_of_writesReal {s : List Char} (h : WritesReal s) :
    s = ['.', 'n', 'a', 'n'] ∨ ∃ x, Value.realMagnitude (Text.ofChars s) = .ok x := by
  cases h with
  | infinite => exact .inr ⟨_, rfl⟩
  | notANumber => exact .inl rfl
  | decimal hlength h =>
      refine .inr ?_
      have hpart : ∀ part ∈ (Text.splitAt ':' s).map Text.ofChars,
          ∃ x, Value.realIn part = .ok x := by
        rw [List.forall_mem_map]
        intro part hp
        obtain ⟨mantissa, exponent, rfl, hmantissa, hexponent⟩ := h part hp
        exact realIn_ofChars hmantissa hexponent
      obtain ⟨places, hplaces, hplaceslength⟩ := exists_mapM_eq_ok hpart
      rw [Value.realMagnitude, splitAt_ofChars, hplaces]
      split_ifs with hinf hcolon
      · exact ⟨_, rfl⟩
      · refine addPlaces_eq_ok (k := 0) places.reverse ?_ _
        rw [List.length_reverse, hplaceslength, List.length_map]
        omega
      · have hnot : ':' ∉ s := fun hmem =>
          hcolon (List.contains_iff_mem.2 (List.mem_map_of_mem hmem))
        rw [Text.splitAt_of_not_mem hnot] at hpart
        exact hpart _ (List.mem_singleton_self _)

/-- A floating-point number begins with a point or a digit. -/
lemma WritesReal.head {s : List Char} (h : WritesReal s) :
    ∃ c t, s = c :: t ∧ Literal.isMantissaPart c = true := by
  cases h with
  | infinite => exact ⟨_, _, rfl, by decide⟩
  | notANumber => exact ⟨_, _, rfl, by decide⟩
  | decimal _ h =>
      have hfirst : ∀ part ∈ Text.splitAt ':' s,
          ∃ c t, part = c :: t ∧ Literal.isMantissaPart c = true := by
        intro part hp
        obtain ⟨mantissa, exponent, rfl, hmantissa, -⟩ := h part hp
        obtain ⟨c, t, rfl⟩ := List.exists_cons_of_ne_nil hmantissa.ne_nil
        exact ⟨c, t ++ exponent, rfl, hmantissa.isMantissaPart c List.mem_cons_self⟩
      cases s with
      | nil => exact absurd (hfirst [] (by simp [Text.splitAt])) (by simp)
      | cons c s =>
          refine ⟨c, s, rfl, ?_⟩
          rw [Text.splitAt] at hfirst
          split_ifs at hfirst with hc
          · exact absurd (hfirst [] List.mem_cons_self) (by simp)
          · split at hfirst <;>
            · obtain ⟨d, t, hcons, hd⟩ := hfirst _ List.mem_cons_self
              rwa [(List.cons.inj hcons).1]

/-- **Floating-point numbers are read.** -/
lemma readReal_of_denotes (id : NodeId) (h : Denotes .float text) :
    ∃ v, Value.readReal id text = .ok v := by
  cases h with
  | any h => exact absurd (by decide) h
  | @float _ sign s hsign h htext =>
      obtain ⟨c, t, hcons, hc⟩ := h.head
      have hfirst := (Literal.not_mem_of_isMantissaPart hc).1
      simp only [List.mem_cons, List.not_mem_nil, or_false, not_or] at hfirst
      obtain ⟨negative, hsigned⟩ := signed_ofChars (s := s) hsign
        (by rw [hcons]; simp [hfirst])
      have hsome : (Text.ofChars (sign ++ s)).isEmpty = false := by
        rw [hcons, List.isEmpty_eq_false_iff, Text.ofChars, ne_eq, List.map_eq_nil_iff]
        simp
      simp only [Value.readReal, htext, hsigned, hsome, Bool.false_eq_true, if_false]
      by_cases hnan : (Text.ofChars s == Text.ofString ".nan") = true
      · rw [if_pos hnan]
        exact ⟨_, rfl⟩
      · rw [if_neg hnan]
        obtain rfl | ⟨x, hx⟩ := realMagnitude_of_writesReal h
        · exact absurd rfl hnan
        · rw [hx]
          exact ⟨_, rfl⟩

/-! ### Switches and timestamps -/

lemma readBool_of_denotes (h : Denotes .bool text) : ∃ b, Value.readBool text = .ok b := by
  cases h with
  | any h => exact absurd (by decide) h
  | @bool _ word hword htext =>
      rw [Value.readBool]
      split
      · exact ⟨_, rfl⟩
      · next hnone =>
        obtain ⟨w, hw, rfl⟩ := List.mem_map.1 hword
        exact absurd (beq_iff_eq.2 htext) (List.find?_eq_none.1 hnone w hw)

lemma Timestamp.InBounds.check_eq {t : Timestamp} (h : t.InBounds) : t.check = .ok () := by
  obtain ⟨hyear, hmonth, hday, hclock, hoffset⟩ := h
  have hdate : t.checkDate = .ok () := by
    rw [checkDate, if_neg (by omega), if_neg (by omega), if_neg (by omega)]
  cases htime : t.time with
  | none =>
      rw [check, htime, hdate]
      rfl
  | some time =>
      obtain ⟨hhour, hminute, hsecond⟩ := hclock time htime
      have htime' : checkTime time = .ok () := by
        rw [checkTime, if_neg (by omega), if_neg (by omega), if_neg (by omega)]
      have hoff : checkOffset time = .ok () := by
        rw [checkOffset]
        split
        · rfl
        · next minutes hminutes =>
          have hday := hoffset time htime minutes hminutes
          exact if_neg (by omega)
      rw [check, htime, hdate, Option.forM, Option.forM]
      simp only [hoff, htime']
      rfl

lemma readTimestamp_of_denotes (h : Denotes .timestamp text) :
    ∃ t, Value.readTimestamp text = .ok t := by
  cases h with
  | any h => exact absurd (by decide) h
  | @timestamp _ t htext h =>
      rw [Value.readTimestamp, htext]
      dsimp only
      rw [h.check_eq]
      exact ⟨t, rfl⟩

end Yaml

end SqlFrontEnd
