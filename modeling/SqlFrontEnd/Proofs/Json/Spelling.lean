import Mathlib
import SqlFrontEnd.Proofs.Json.Reading
import SqlFrontEnd.Proofs.Text.Utf8

/-!
# Spellings of a value

A text and an object with a text as its only member can be written as JSON in many ways: any space
may stand between the parts, and every character of a name or a text may be spelled in each of its
ways.  All of them are read as one value.  What a writer makes of the value, in this layout or that
one, are some of them.

* `Space` — what may stand between the parts.
* `WritesText`, `WritesMember` — the texts that write a text, or an object with one text in it.
* `readWithin?_of_writesText`, `readWithin?_of_writesMember` — what is read of them.
* `WritesText.detectable`, `WritesMember.detectable` — in UTF-8 they are known to be so.
* `writesText_quotedText`, `writesMember_quotedText` — what is written on one line.
-/

namespace SqlFrontEnd.Json

open Text

/-! ## Texts that write a value -/

/-- What may stand between the parts of a value. -/
def Space (s : List Char) : Prop := ∀ c ∈ s, isSpace c = true

lemma space_nil : Space [] := List.forall_mem_nil _

/-- The texts that write a text: a spelling of it between quotes, with space around it. -/
inductive WritesText (value : List Char) : List Char → Prop
  | mk {before spelling after : List Char} (hbefore : Space before) (hafter : Space after)
      (hvalue : SpellsText value spelling) :
      WritesText value (before ++ '"' :: (spelling ++ '"' :: after))

/-- The texts that write an object with a text as its only member: the spellings of its name and of
the text between quotes, with space around all parts. -/
inductive WritesMember (name value : List Char) : List Char → Prop
  | mk {s₀ s₁ s₂ s₃ s₄ s₅ spelling spelling' : List Char} (h₀ : Space s₀) (h₁ : Space s₁)
      (h₂ : Space s₂) (h₃ : Space s₃) (h₄ : Space s₄) (h₅ : Space s₅)
      (hname : SpellsText name spelling) (hvalue : SpellsText value spelling') :
      WritesMember name value (s₀ ++ '\x7b' :: (s₁ ++ '"' :: (spelling ++ '"' ::
        (s₂ ++ ':' :: (s₃ ++ '"' :: (spelling' ++ '"' :: (s₄ ++ '\x7d' :: s₅)))))))

/-! ## Reading them -/

variable {name value s : List Char} {limit : Option ℕ}

/-- Space is skipped up to a part. -/
lemma skipSpace_ofChars (hs : Space s) (c : Char) (hc : isSpace c = false) (t : List Char) :
    skipSpace (ofChars (s ++ c :: t)) = .char c :: ofChars t := by
  rw [ofChars_append]
  exact skipSpace_append hs hc (ofChars t)

/-- A spelling is read up to the quote behind it. -/
lemma content?_ofChars {spelling : List Char} (h : SpellsText value spelling) (t : List Char) :
    content? (ofChars (spelling ++ '"' :: t)) = some (ofChars value, ofChars t) := by
  rw [ofChars_append]
  exact content?_append_quote h (ofChars t)

/-- A text is read behind its opening quote. -/
lemma value?_ofChars (fuel : ℕ) {spelling : List Char} (h : SpellsText value spelling)
    (t : List Char) :
    value? limit (fuel + 1) (.char '"' :: ofChars (spelling ++ '"' :: t)) =
      some (.string (ofChars value), ofChars t) := by
  rw [value?, content?_ofChars h]
  rfl

/-- **Whatever writes a text is read as that text.** -/
lemma readWithin?_of_writesText (h : WritesText value s) :
    readWithin? limit (ofChars s) = some (.string (ofChars value)) := by
  obtain ⟨hbefore, hafter, hvalue⟩ := h
  rw [readWithin?, skipSpace_ofChars hbefore '"' (by decide), value?_ofChars _ hvalue]
  dsimp only
  rw [skipSpace_eq_nil hafter]
  rfl

/-- A member is read part by part up to the brace behind it. -/
lemma members?_single {fuel : ℕ} {name s₁ s₂ s₃ s₄ s₅ : Text} {v : Json}
    (hname : content? s₁ = some (name, s₂)) (hcolon : skipSpace s₂ = .char ':' :: s₃)
    (hvalue : value? limit fuel (skipSpace s₃) = some (v, s₄))
    (hclose : skipSpace s₄ = .char '\x7d' :: s₅) :
    members? limit (fuel + 1) (.char '"' :: s₁) = some ([(name, v)], s₅) := by
  simp only [members?, hname, hcolon, hvalue, hclose]

/-- **Whatever writes an object with a text in it is read as that object.** -/
lemma readWithin?_of_writesMember (h : WritesMember name value s) :
    readWithin? limit (ofChars s) = some (.object [(ofChars name, .string (ofChars value))]) := by
  obtain ⟨h₀, h₁, h₂, h₃, h₄, h₅, hname, hvalue⟩ := h
  rename_i s₀ s₁ s₂ s₃ s₄ s₅ spelling spelling'
  -- There are two characters at least, and so enough for a value in a member of a value.
  obtain ⟨fuel, hfuel⟩ : ∃ fuel, (ofChars (s₀ ++ '\x7b' :: (s₁ ++ '"' :: (spelling ++ '"' ::
      (s₂ ++ ':' :: (s₃ ++ '"' :: (spelling' ++ '"' :: (s₄ ++ '\x7d' :: s₅)))))))).length + 1 =
        fuel + 3 := by
    refine Nat.exists_eq_add_of_le' ?_
    simp only [ofChars, List.length_map, List.length_append, List.length_cons]
    omega
  have hmember : members? limit (fuel + 2) _ = _ :=
    members?_single (content?_ofChars hname _) (skipSpace_ofChars h₂ ':' (by decide) _)
      ((congrArg _ (skipSpace_ofChars h₃ '"' (by decide) _)).trans (value?_ofChars fuel hvalue _))
      (skipSpace_ofChars h₄ '\x7d' (by decide) s₅)
  rw [readWithin?, hfuel, skipSpace_ofChars h₀ '\x7b' (by decide),
    value?_object limit (fuel + 2) (skipSpace_ofChars h₁ '"' (by decide) _), hmember]
  dsimp only [Option.map_some]
  rw [skipSpace_eq_nil h₅]
  rfl

/-! ## Telling their encoding -/

/-- A text that begins in ASCII and holds no null character. -/
structure Detectable (s : List Char) : Prop where
  begins : ∃ c t, s = c :: t ∧ c.toNat < 0x80
  ne_null : ∀ c ∈ s, c ≠ '\x00'

lemma Detectable.decodeDetected? (h : Detectable s) :
    Text.decodeDetected? (Utf8.encode s) = some (ofChars s) := by
  obtain ⟨⟨c, t, rfl, hfirst⟩, hnull⟩ := h
  exact decodeDetected?_encode hfirst hnull

lemma Space.ascii (h : Space s) : ∀ c ∈ s, c.toNat < 0x80 ∧ c ≠ '\x00' := by
  intro c hc
  have hspace := h c hc
  simp only [isSpace, Bool.or_eq_true, beq_iff_eq] at hspace
  obtain ((rfl | rfl) | rfl) | rfl := hspace <;> decide

/-- Each character of a number is a digit. -/
lemma isSome_digitValue? {ds : List Char} {n : ℕ} (h : Hexadecimal.value? ds = some n) :
    ∀ d ∈ ds, (Hexadecimal.digitValue? d).isSome = true := by
  unfold Hexadecimal.value? at h
  generalize 0 = m at h
  induction ds generalizing m with
  | nil => exact List.forall_mem_nil _
  | cons d ds ih =>
      rw [List.foldlM_cons, Option.bind_eq_bind, Option.bind_eq_some_iff] at h
      obtain ⟨m', hm, hds⟩ := h
      obtain ⟨k, hk, -⟩ := Option.map_eq_some_iff.1 hm
      exact List.forall_mem_cons.2 ⟨by rw [hk, Option.isSome_some], ih m' hds⟩

lemma WritesUnit.ne_null {ds : List Char} {n : ℕ} (h : WritesUnit ds n) :
    ∀ d ∈ ds, d ≠ '\x00' := by
  rintro d hd rfl
  exact absurd (isSome_digitValue? h.value?_eq _ hd) (by decide)

lemma SpellsChar.ne_null {c : Char} (h : SpellsChar c s) : ∀ d ∈ s, d ≠ '\x00' := by
  cases h with
  | itself _ _ hcontrol =>
      rw [List.forall_mem_singleton]
      rintro rfl
      exact absurd hcontrol (by decide)
  | @letter letter h =>
      have hletters : ∀ pair ∈ letters, pair.1 ≠ '\x00' := by decide
      simpa using hletters _ h
  | number h => simpa using h.ne_null
  | pair hds hes =>
      simpa [or_imp, forall_and] using ⟨hds.ne_null, hes.ne_null⟩

lemma SpellsText.ne_null (h : SpellsText value s) : ∀ d ∈ s, d ≠ '\x00' := by
  induction h with
  | nil => exact List.forall_mem_nil _
  | cons hc _ ih => exact List.forall_mem_append.2 ⟨hc.ne_null, ih⟩

/-- Space and something in ASCII behind it begin in ASCII. -/
lemma Space.begins (h : Space s) {c : Char} (hc : c.toNat < 0x80) (t : List Char) :
    ∃ d u, s ++ c :: t = d :: u ∧ d.toNat < 0x80 := by
  cases s with
  | nil => exact ⟨c, t, rfl, hc⟩
  | cons d s => exact ⟨d, s ++ c :: t, rfl, (h.ascii d List.mem_cons_self).1⟩

lemma WritesText.detectable (h : WritesText value s) : Detectable s := by
  obtain ⟨hbefore, hafter, hvalue⟩ := h
  refine ⟨hbefore.begins (by decide) _, ?_⟩
  simp only [List.forall_mem_append, List.forall_mem_cons]
  exact ⟨fun c hc => (hbefore.ascii c hc).2, by decide, hvalue.ne_null, by decide,
    fun c hc => (hafter.ascii c hc).2⟩

lemma WritesMember.detectable (h : WritesMember name value s) : Detectable s := by
  obtain ⟨h₀, h₁, h₂, h₃, h₄, h₅, hname, hvalue⟩ := h
  have hspace {s : List Char} (h : Space s) : ∀ c ∈ s, c ≠ '\x00' := fun c hc => (h.ascii c hc).2
  refine ⟨h₀.begins (by decide) _, ?_⟩
  simp only [List.forall_mem_append, List.forall_mem_cons]
  exact ⟨hspace h₀, by decide, hspace h₁, by decide, hname.ne_null, by decide, hspace h₂,
    by decide, hspace h₃, by decide, hvalue.ne_null, by decide, hspace h₄, by decide, hspace h₅⟩

/-! ## Writing them -/

/-- A text on one line. -/
lemma writesText_quotedText (value : List Char) : WritesText value (quotedText (ofChars value)) :=
  .mk space_nil space_nil (spellsText_escaped value)

/-- An object on one line, with or without space behind the colon. -/
lemma writesMember_quotedText (name value : List Char) {space : List Char} (h : Space space) :
    WritesMember name value ('\x7b' :: (quotedText (ofChars name) ++
      ':' :: (space ++ quotedText (ofChars value) ++ ['\x7d']))) := by
  have hwrites := WritesMember.mk space_nil space_nil space_nil h space_nil space_nil
    (spellsText_escaped name) (spellsText_escaped value)
  simpa [quotedText] using hwrites

end SqlFrontEnd.Json
