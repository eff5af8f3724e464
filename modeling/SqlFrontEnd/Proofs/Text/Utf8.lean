import Mathlib
import SqlFrontEnd.Text.Wide

/-!
# Reading back UTF-8

The octets that a text is written in are read as that text again, by every reader there is: the
strict one, the lenient one, and the one that looks for the encoding first.  For all of them it is
enough to know what stands at the start of the octets of a character and more.

* `front_encodeChar` — that is the character, and the rest is left.
* **`decode_encode`**, **`decodeLossy_encode`**, **`decodeHalves?_encode`** — so each reader gives
  the text that was written.
* **`decodeDetected?_encode`** — the octets of a text without null characters that begins in ASCII
  are taken for UTF-8.
-/

namespace SqlFrontEnd.Text

namespace Utf8

/-! ## One character -/

lemma toNat_ofNat {n : ℕ} (h : n < 0x100) : (UInt8.ofNat n).toNat = n := by
  rw [UInt8.toNat_ofNat', Nat.mod_eq_of_lt h]

lemma toNat_continuation (n : ℕ) : (continuation n).toNat = 0x80 + n % 0x40 :=
  toNat_ofNat (by omega)

/-- A continuation octet within its bounds adds its six bits. -/
lemma follow_continuation {following bits low high length n : ℕ} (octets : List UInt8)
    (hlow : low ≤ 0x80 + n % 0x40) (hhigh : 0x80 + n % 0x40 ≤ high) :
    follow (following + 1) bits low high length (continuation n :: octets) =
      follow following (bits * 0x40 + n % 0x40) 0x80 0xBF (length + 1) octets := by
  rw [follow, toNat_continuation, if_pos ⟨hlow, hhigh⟩, Nat.add_sub_cancel_left]

/-- The number of a character is not that of half a surrogate pair. -/
lemma toNat_cases (c : Char) : c.toNat < 0xD800 ∨ 0xDFFF < c.toNat ∧ c.toNat < 0x110000 := c.valid

/-- **At the start of the octets of a character** stands that character. -/
lemma front_encodeChar (c : Char) (rest : List UInt8) :
    ∃ octet octets, encodeChar c ++ rest = octet :: octets ∧
      front octet octets = .character c rest := by
  have hvalid := toNat_cases c
  have hchar : Char.ofNat c.toNat = c := Char.ofNat_toNat c
  generalize hn : c.toNat = n at hvalid hchar
  subst hchar
  simp only [encodeChar, hn]
  split_ifs with h₁ h₂ h₃
  · refine ⟨UInt8.ofNat n, rest, rfl, ?_⟩
    rw [front, toNat_ofNat (by omega), lead?, if_pos h₁]
    rfl
  · refine ⟨UInt8.ofNat (0xC0 + n / 0x40), continuation n :: rest, rfl, ?_⟩
    rw [front, toNat_ofNat (by omega), lead?, if_neg (by omega), if_neg (by omega),
      if_pos (by omega)]
    dsimp only
    rw [follow_continuation rest (by omega) (by omega), follow]
    congr
    omega
  · refine ⟨UInt8.ofNat (0xE0 + n / 0x1000),
      continuation (n / 0x40) :: continuation n :: rest, rfl, ?_⟩
    rw [front, toNat_ofNat (by omega), lead?, if_neg (by omega), if_neg (by omega),
      if_neg (by omega), if_pos (by omega)]
    dsimp only
    rw [follow_continuation _ (by split_ifs <;> omega) (by split_ifs <;> omega),
      follow_continuation rest (by omega) (by omega), follow]
    congr
    omega
  · refine ⟨UInt8.ofNat (0xF0 + n / 0x40000),
      continuation (n / 0x1000) :: continuation (n / 0x40) :: continuation n :: rest, rfl, ?_⟩
    rw [front, toNat_ofNat (by omega), lead?, if_neg (by omega), if_neg (by omega),
      if_neg (by omega), if_neg (by omega), if_pos (by omega)]
    dsimp only
    rw [follow_continuation _ (by split_ifs <;> omega) (by split_ifs <;> omega),
      follow_continuation _ (by omega) (by omega), follow_continuation rest (by omega) (by omega),
      follow]
    congr
    omega

/-! ## Whole texts -/

lemma encode_cons (c : Char) (text : List Char) :
    encode (c :: text) = encodeChar c ++ encode text :=
  List.flatMap_cons

/-- **Strict reading** gives the text that was written. -/
theorem decode_encode (text : List Char) : decode (encode text) = .ok text := by
  suffices ∀ position, decodeFrom position (encode text) = .ok text from this 0
  induction text with
  | nil => intro position; rw [encode, List.flatMap_nil, decodeFrom]
  | cons c text ih =>
      intro position
      obtain ⟨octet, octets, heq, hfront⟩ := front_encodeChar c (encode text)
      rw [encode_cons, heq, decodeFrom]
      split
      · next hfront' =>
        rw [hfront] at hfront'
        cases hfront'
        rw [ih]
        rfl
      · next hfront' => rw [hfront] at hfront'; cases hfront'

/-- **Lenient reading** finds nothing to replace. -/
theorem decodeLossy_encode (text : List Char) : decodeLossy (encode text) = text := by
  induction text with
  | nil => rw [encode, List.flatMap_nil, decodeLossy]
  | cons c text ih =>
      obtain ⟨octet, octets, heq, hfront⟩ := front_encodeChar c (encode text)
      rw [encode_cons, heq, decodeLossy]
      split
      · next hfront' =>
        rw [hfront] at hfront'
        cases hfront'
        rw [ih]
      · next hfront' => rw [hfront] at hfront'; cases hfront'

/-- **Reading with halves** of surrogate pairs finds none. -/
theorem decodeHalves?_encode (text : List Char) :
    decodeHalves? (encode text) = some (ofChars text) := by
  induction text with
  | nil => rw [encode, List.flatMap_nil, decodeHalves?]; rfl
  | cons c text ih =>
      obtain ⟨octet, octets, heq, hfront⟩ := front_encodeChar c (encode text)
      rw [encode_cons, heq, decodeHalves?]
      split
      · next hfront' =>
        rw [hfront] at hfront'
        cases hfront'
        rw [ih]
        rfl
      · next hfront' => rw [hfront] at hfront'; cases hfront'

lemma ne_zero_of_toNat {octet : UInt8} (h : octet.toNat ≠ 0) : octet ≠ 0 := by
  rintro rfl
  exact h rfl

/-- Only the null character has a zero among its octets. -/
lemma ne_zero_of_mem_encodeChar {c : Char} (hc : c ≠ '\x00') :
    ∀ octet ∈ encodeChar c, octet ≠ 0 := by
  have hpos : c.toNat ≠ 0 := fun h => hc (by rw [← Char.ofNat_toNat c, h])
  have hvalid := toNat_cases c
  have hcontinuation (n : ℕ) : continuation n ≠ 0 :=
    ne_zero_of_toNat (by rw [toNat_continuation]; omega)
  have hlead {n : ℕ} (h₁ : n ≠ 0) (h₂ : n < 0x100) : UInt8.ofNat n ≠ 0 :=
    ne_zero_of_toNat (by rwa [toNat_ofNat h₂])
  simp only [encodeChar]
  split_ifs <;> simp only [List.forall_mem_cons, List.not_mem_nil, false_implies, implies_true,
    and_true, hcontinuation, ne_eq, not_false_eq_true]
  all_goals exact hlead (by omega) (by omega)

end Utf8

/-! ## Texts that begin in ASCII -/

/-- Octets without zeros that begin in ASCII have no byte order mark either. -/
lemma Encoding.detect_eq_utf8 {octet : UInt8} {octets : List UInt8} (hfirst : octet.toNat < 0x80)
    (h : ∀ o ∈ octet :: octets, o ≠ 0) :
    detect (octet :: octets) = (utf8, octet :: octets) := by
  have hzeros : ofZeros (octet :: octets) = utf8 := by
    unfold ofZeros
    split
    · next heq =>
      rw [heq] at h
      rw [if_neg (h _ (by simp)), if_neg (h _ (by simp))]
    · next heq =>
      rw [heq] at h
      rw [if_neg (h _ (by simp)), if_neg (h _ (by simp))]
    · rfl
  unfold detect
  split
  · next heq => exact absurd (List.cons.inj heq).1 (h _ List.mem_cons_self)
  · next heq => rw [(List.cons.inj heq).1] at hfirst; exact absurd hfirst (by decide)
  · next heq => rw [(List.cons.inj heq).1] at hfirst; exact absurd hfirst (by decide)
  · next heq => rw [(List.cons.inj heq).1] at hfirst; exact absurd hfirst (by decide)
  · next heq => rw [(List.cons.inj heq).1] at hfirst; exact absurd hfirst (by decide)
  · rw [hzeros]

/-- **A text that begins in ASCII is taken for UTF-8**, unless it holds null characters. -/
theorem decodeDetected?_encode {c : Char} {cs : List Char} (hfirst : c.toNat < 0x80)
    (h : ∀ d ∈ c :: cs, d ≠ '\x00') :
    decodeDetected? (Utf8.encode (c :: cs)) = some (ofChars (c :: cs)) := by
  have hencode : Utf8.encode (c :: cs) = UInt8.ofNat c.toNat :: Utf8.encode cs := by
    rw [Utf8.encode_cons, Utf8.encodeChar, if_pos hfirst]
    rfl
  have hzero : ∀ octet ∈ Utf8.encode (c :: cs), octet ≠ 0 := by
    intro octet hoctet
    obtain ⟨d, hd, hmem⟩ := List.mem_flatMap.1 hoctet
    exact Utf8.ne_zero_of_mem_encodeChar (h d hd) octet hmem
  rw [hencode] at hzero
  have hdetect := Encoding.detect_eq_utf8
    (by rwa [Utf8.toNat_ofNat (Nat.lt_trans hfirst (by decide))]) hzero
  rw [decodeDetected?, hencode, hdetect, ← hencode]
  exact Utf8.decodeHalves?_encode (c :: cs)

end SqlFrontEnd.Text
