import Mathlib
import SqlFrontEnd.Yaml.TokenStream

/-!
# Reading the parts of a text

The parts of a text are read from spots in it, and what remains at each spot is the end of the text.
Two parts can denote nothing, an escape for a number that no code point has, and a version with more
digits than are read.  Both show in the text itself.  Where there are none of them, each part is
read or is not well-formed, and reading stays in the text.

* `Constructs`, `Gives` — what is said of every result, and how it is put together.
* `Spot.Behind`, `Spot.In` — a spot in a text, and what stands before it.
* `Scannable` — the texts without those two parts.
* **`constructs_quoted`**, **`constructs_directive`** — where escapes and versions are read.
-/

namespace SqlFrontEnd

namespace Yaml

/-! ## Results without faults of parts -/

/-- A result is fit for what follows, or it is refused as not well-formed. -/
inductive Constructs {α : Type} (fit : α → Prop) : Except Fault α → Prop
  | ok {a : α} (h : fit a) : Constructs fit (.ok a)
  | malformed : Constructs fit (.error .malformed)

/-- A result, if there is one, is fit for what follows. -/
def Gives {α : Type} (fit : α → Prop) (o : Option α) : Prop := ∀ a ∈ o, fit a

section

variable {α β : Type} {fit : α → Prop} {fit' : β → Prop} {r : Except Fault α} {o : Option α}

lemma constructs_orMalformed (h : Gives fit o) : Constructs fit (orMalformed o) := by
  cases o with
  | none => exact .malformed
  | some a => exact .ok (h a rfl)

lemma Constructs.ite {c : Prop} [Decidable c] {r' : Except Fault α} (h : Constructs fit r)
    (h' : Constructs fit r') : Constructs fit (if c then r else r') := by
  split_ifs
  · exact h
  · exact h'

/-- Going on. -/
lemma Constructs.bind (h : Constructs fit r) {f : α → Except Fault β}
    (hf : ∀ a, fit a → Constructs fit' (f a)) : Constructs fit' (r >>= f) := by
  cases h with
  | ok h => exact hf _ h
  | malformed => exact .malformed

lemma Constructs.map (h : Constructs fit r) {f : α → β} (hf : ∀ a, fit a → fit' (f a)) :
    Constructs fit' (r.map f) := by
  cases h with
  | ok h => exact .ok (hf _ h)
  | malformed => exact .malformed

lemma gives_some {a : α} (h : fit a) : Gives fit (some a) := by
  rintro _ ⟨⟩
  exact h

lemma gives_none : Gives fit none := by
  rintro _ ⟨⟩

lemma Gives.ite {c : Prop} [Decidable c] {o' : Option α} (h : Gives fit o) (h' : Gives fit o') :
    Gives fit (if c then o else o') := by
  split_ifs
  · exact h
  · exact h'

/-- Going on. -/
lemma Gives.bind (h : Gives fit o) {f : α → Option β} (hf : ∀ a, fit a → Gives fit' (f a)) :
    Gives fit' (o >>= f) := by
  cases o with
  | none => exact gives_none
  | some a => exact hf a (h a rfl)

end

/-! ## Spots in a text -/

namespace Spot

/-- What remains at a spot is the end of a text, and stands behind given characters. -/
def Behind (s : Spot) (text before : List Char) : Prop := before ++ s.rest <:+ text

/-- What remains at a spot is the end of a text. -/
def In (s : Spot) (text : List Char) : Prop := s.Behind text []

variable {s : Spot} {text before : List Char}

lemma Behind.in (h : s.Behind text before) : s.In text := (List.suffix_append _ _).trans h

/-- What follows at a spot stands in the text. -/
lemma Behind.follows (h : s.Behind text before) {next : List Char} (hnext : next <+: s.rest) :
    before ++ next <:+: text :=
  ((List.prefix_append_right_inj before).2 hnext).isInfix.trans h.isInfix

lemma rest_next (s : Spot) : s.next.rest = s.rest.tail := by
  unfold next
  split
  · next h => rw [h]; rfl
  · next h =>
    rw [h]
    split_ifs <;> rfl

lemma rest_forward (s : Spot) (n : ℕ) : (s.forward n).rest = s.rest.drop n := by
  induction n generalizing s with
  | zero => rfl
  | succ n ih => rw [forward, ih, rest_next, List.drop_tail, Nat.add_comm]

lemma In.next (h : s.In text) : s.next.In text := by
  refine List.IsSuffix.trans ?_ h
  rw [List.nil_append, List.nil_append, rest_next]
  exact List.tail_suffix _

lemma In.forward (h : s.In text) (n : ℕ) : (s.forward n).In text := by
  refine List.IsSuffix.trans ?_ h
  rw [List.nil_append, List.nil_append, rest_forward]
  exact List.drop_suffix _ _

/-- A character at a spot is what remains first. -/
lemma rest_of_here {c : Char} (h : s.here = c) (hc : c ≠ endMark) :
    s.rest = c :: s.next.rest := by
  rw [here, peek] at h
  rw [rest_next]
  cases hrest : s.rest with
  | nil => rw [hrest] at h; exact absurd h.symm hc
  | cons d rest => rw [hrest] at h; rw [← h]; rfl

lemma Behind.next (h : s.Behind text before) {c : Char} (hhere : s.here = c)
    (hc : c ≠ endMark) : s.next.Behind text (before ++ [c]) := by
  rw [Behind, List.append_assoc, List.singleton_append, ← rest_of_here hhere hc]
  exact h

/-- Moving over a run. -/
lemma Behind.run (h : s.Behind text before) (p : Char → Bool) :
    (s.forward (s.run p).length).Behind text (before ++ s.run p) := by
  have hrest : s.rest.takeWhile p ++ s.rest.drop (s.rest.takeWhile p).length = s.rest :=
    List.prefix_iff_eq_append.1 (List.takeWhile_prefix p)
  rw [Behind, rest_forward, Spot.run, List.append_assoc, hrest]
  exact h

lemma In.skip (h : s.In text) (p : Char → Bool) : (s.skip p).In text := h.forward _

lemma In.skipSpaces (h : s.In text) : s.skipSpaces.In text := h.skip _

lemma In.skipComment (h : s.In text) : s.skipComment.In text := by
  unfold Spot.skipComment
  split_ifs
  · exact h.forward _
  · exact h

lemma In.lineBreak (h : s.In text) : s.lineBreak.2.In text := by
  unfold Spot.lineBreak
  split_ifs
  · exact h.forward 2
  · exact h.next
  · exact h.next
  · exact h

lemma In.restOfLine? (h : s.In text) : Gives (In · text) s.restOfLine? := by
  unfold Spot.restOfLine?
  dsimp only
  split_ifs
  · exact gives_some h.skipSpaces.skipComment.lineBreak
  · exact gives_none

end Spot

/-! ## Scannable texts -/

/-- What stands in a version: spaces, digits and points. -/
def isVersionPart (c : Char) : Bool := c == ' ' || c == '.' || Decimal.isDigit c

/-- A text whose escapes give code points and whose versions have few digits. -/
structure Scannable (text : List Char) : Prop where
  escapes : ∀ ds n, ['\\', 'U'] ++ ds <:+: text → ds.length = 8 →
    Hexadecimal.value? ds = some n → n < 0x110000
  versions : ∀ parts ds, '%' :: "YAML".toList ++ (parts ++ ds) <:+: text →
    (∀ c ∈ parts, isVersionPart c = true) → (∀ c ∈ ds, Decimal.isDigit c = true) →
      ds.length ≤ maxVersionDigits

variable {s : Spot} {text : List Char}

/-- Texts without backslashes and percent signs. -/
lemma scannable_of_not_mem (hbackslash : '\\' ∉ text) (hpercent : '%' ∉ text) :
    Scannable text where
  escapes _ _ hin := absurd (hin.mem (by simp)) hbackslash
  versions _ _ hin := absurd (hin.mem (by simp)) hpercent

/-! ## Texts in quotes -/

lemma gives_quotedBreaks? (fuel : ℕ) (h : s.In text) :
    Gives (fun r => r.2.In text) (quotedBreaks? fuel s) := by
  induction fuel generalizing s with
  | zero => exact gives_none
  | succ fuel ih =>
      unfold quotedBreaks?
      dsimp only
      split_ifs
      · exact gives_none
      · exact (ih (h.forward _).lineBreak).bind fun r hr => gives_some hr
      · exact gives_some (h.forward _)

lemma digitValue?_lt {c : Char} {d : ℕ} (h : Hexadecimal.digitValue? c = some d) : d < 16 := by
  have hle {c e : Char} (h : c ≤ e) : c.toNat ≤ e.toNat := h
  unfold Hexadecimal.digitValue? at h
  split_ifs at h with h₁ h₂ h₃
  · have hc := hle h₁.2
    cases h
    simp at hc
    omega
  · have hc := hle h₂.2
    cases h
    simp at hc
    omega
  · have hc := hle h₃.2
    cases h
    simp at hc
    omega

/-- The number that digits denote is less than their count allows. -/
lemma value?_lt {ds : List Char} {n : ℕ} (h : Hexadecimal.value? ds = some n) :
    n < Nat.pow 16 ds.length := by
  have hfold (ds : List Char) (m : ℕ)
      (h : ds.foldlM (fun n c => (Hexadecimal.digitValue? c).map (16 * n + ·)) m = some n) :
      n < (m + 1) * Nat.pow 16 ds.length := by
    induction ds generalizing m with
    | nil =>
        cases h
        exact Nat.lt_of_lt_of_eq (Nat.lt_succ_self _) (Nat.mul_one _).symm
    | cons c ds ih =>
        rw [List.foldlM_cons] at h
        obtain ⟨m', hm', h⟩ := Option.bind_eq_some_iff.1 h
        obtain ⟨d, hd, rfl⟩ := Option.map_eq_some_iff.1 hm'
        have hd := digitValue?_lt hd
        calc n < (16 * m + d + 1) * Nat.pow 16 ds.length := ih _ h
          _ ≤ ((m + 1) * 16) * Nat.pow 16 ds.length := Nat.mul_le_mul_right _ (by omega)
          _ = (m + 1) * (Nat.pow 16 ds.length * 16) := by ring
  have hlt := hfold ds 0 h
  rwa [Nat.zero_add, Nat.one_mul] at hlt

lemma constructs_numberedCodePoint {n : ℕ} (h : n < 0x110000) :
    Constructs (fun _ => True) (numberedCodePoint n) := by
  have hsome : ∃ c, CodePoint.ofNumber? n = some c := by
    unfold CodePoint.ofNumber?
    split_ifs
    exacts [⟨_, rfl⟩, ⟨_, rfl⟩]
  obtain ⟨c, hc⟩ := hsome
  rw [numberedCodePoint, hc]
  exact .ok trivial

/-- **Escapes are read**, if those with eight digits give code points. -/
lemma constructs_escape (htext : Scannable text) (h : s.Behind text ['\\']) :
    Constructs (fun r => r.2.In text) (escape s) := by
  unfold escape
  split
  · exact .ok h.in.next
  · split
    · next count hcount =>
      -- Only an escape with eight digits can give a number without a code point.
      have hnumber {n : ℕ} (hlength : count ≤ s.next.rest.length)
          (hn : Hexadecimal.value? (s.next.rest.take count) = some n) : n < 0x110000 := by
        have hdigits : (s.next.rest.take count).length = count := List.length_take_of_le hlength
        have hlt := value?_lt hn
        rw [hdigits] at hlt
        obtain ⟨before, after, heq, -⟩ := List.lookup_eq_some_iff.1 hcount
        have hmem : (s.here, count) ∈ numberEscapes := by simp [heq]
        simp only [numberEscapes, List.mem_cons, Prod.mk.injEq, List.not_mem_nil, or_false] at hmem
        obtain ⟨-, rfl⟩ | ⟨-, rfl⟩ | ⟨hhere, rfl⟩ := hmem
        · exact hlt.trans (by decide)
        · exact hlt.trans (by decide)
        · exact htext.escapes _ _ ((h.next hhere (by decide)).follows (List.take_prefix _ _))
            hdigits hn
      have hgives : Gives (· < 0x110000) (if s.next.rest.length < count then none
          else Hexadecimal.value? (s.next.rest.take count)) := by
        intro n hn
        split_ifs at hn with hlength
        · cases hn
        · exact hnumber (by omega) hn
      refine (constructs_orMalformed hgives).bind fun n hn => ?_
      exact (constructs_numberedCodePoint hn).bind fun _ _ => .ok (h.in.next.forward _)
    · split_ifs
      · refine (constructs_orMalformed (gives_quotedBreaks? _ h.in.lineBreak)).bind fun r hr => ?_
        exact .ok hr
      · exact .malformed

lemma constructs_quotedWord (htext : Scannable text) (double : Bool) (fuel : ℕ)
    (h : s.In text) : Constructs (fun r => r.2.In text) (quotedWord double fuel s) := by
  induction fuel generalizing s with
  | zero => exact .malformed
  | succ fuel ih =>
      unfold quotedWord
      dsimp only
      have hpart := h.forward (s.run isQuotedPart).length
      split_ifs with h₁ h₂ h₃
      · exact (ih (hpart.forward 2)).map fun r hr => hr
      · exact (ih hpart.next).map fun r hr => hr
      · have hescape := constructs_escape htext
          (Spot.Behind.next hpart (beq_iff_eq.1 (Bool.and_eq_true_iff.1 h₃).2) (by decide))
        split
        · next heq =>
          rw [heq] at hescape
          cases hescape with
          | ok hr => exact (ih hr).map fun r hr => hr
        · next heq =>
          rw [heq] at hescape
          cases hescape
          exact .malformed
      · exact .ok hpart

lemma gives_quotedGap? (h : s.In text) : Gives (fun r => r.2.In text) (quotedGap? s) := by
  unfold quotedGap?
  dsimp only
  split_ifs
  · exact gives_none
  · exact (gives_quotedBreaks? _ (h.forward _).lineBreak).bind fun r hr => gives_some hr
  · exact gives_some (h.forward _)

lemma constructs_quotedRest (htext : Scannable text) (double : Bool) (fuel : ℕ)
    (h : s.In text) : Constructs (fun r => r.2.In text) (quotedRest double fuel s) := by
  induction fuel generalizing s with
  | zero => exact .malformed
  | succ fuel ih =>
      rw [quotedRest]
      refine (constructs_quotedWord htext double _ h).bind fun r hr => ?_
      dsimp only
      by_cases hclose : (r.2.here == (if double = true then '"' else '\'')) = true
      · rw [if_pos hclose]
        exact .ok hr.next
      · rw [if_neg hclose]
        refine (constructs_orMalformed (gives_quotedGap? hr)).bind fun r hr => ?_
        exact (ih hr).bind fun r hr => .ok hr

/-- **A text in quotes is read** through its closing quote. -/
lemma constructs_quoted (htext : Scannable text) (h : s.In text) :
    Constructs (fun r => r.2.In text) (quoted s) :=
  constructs_quotedRest htext _ _ h.next

/-! ## Plain texts and blocks -/

lemma in_plainBreaks (fuel : ℕ) (h : s.In text) : (plainBreaks fuel s).2.In text := by
  induction fuel generalizing s with
  | zero => exact h
  | succ fuel ih =>
      unfold plainBreaks
      dsimp only
      split_ifs
      · exact ih h.next
      · exact h.lineBreak
      · exact ih h.lineBreak
      · exact h

lemma in_plainGap (h : s.In text) : (plainGap s).spot.In text := by
  unfold plainGap
  dsimp only
  split_ifs
  · exact (h.forward _).lineBreak
  · exact in_plainBreaks _ (h.forward _).lineBreak
  · exact h.forward _
  · exact h.forward _

lemma in_plainRest (inFlow : Bool) (indent : ℤ) (fuel : ℕ) (gap : List Char) (crossed : Bool)
    (h : s.In text) : (plainRest inFlow indent fuel gap crossed s).spot.In text := by
  induction fuel generalizing gap crossed s with
  | zero => exact h
  | succ fuel ih =>
      unfold plainRest
      dsimp only
      generalize (if (s.here == '#') = true then [] else plainWord inFlow s.rest) = word
      have hgap := in_plainGap (h.forward word.length)
      split
      · exact h
      · split
        · exact hgap
        · split
          · exact hgap
          · exact ih _ _ hgap

lemma in_plain (inFlow : Bool) (indent : ℤ) (h : s.In text) :
    (plain inFlow indent s).spot.In text :=
  in_plainRest _ _ _ _ _ h

lemma gives_increment? (h : s.In text) : Gives (fun r => r.2.In text) (increment? s) := by
  unfold increment?
  split_ifs
  · exact gives_none
  · exact gives_some h.next
  · exact gives_some h

lemma gives_blockHeader? (h : s.In text) : Gives (fun r => r.2.2.In text) (blockHeader? s) := by
  have hfinish (chomping : Chomping) (increment : Option ℕ) {s : Spot} (h : s.In text) :
      Gives (fun r : Chomping × Option ℕ × Spot => r.2.2.In text)
        (if isGap s.here = true then pure (chomping, increment, s) else none) := by
    split_ifs
    · exact gives_some h
    · exact gives_none
  unfold blockHeader?
  dsimp only
  split
  · exact (gives_increment? h.next).bind fun r hr => hfinish _ _ hr
  · refine (gives_increment? h).bind fun r hr => ?_
    split
    · exact hfinish _ _ hr.next
    · exact hfinish _ _ hr

lemma in_toColumn (column fuel : ℕ) (h : s.In text) : (toColumn column fuel s).In text := by
  induction fuel generalizing s with
  | zero => exact h
  | succ fuel ih =>
      rw [toColumn]
      split_ifs
      · exact ih h.next
      · exact h

lemma in_blockBreaks (indent fuel : ℕ) (h : s.In text) : (blockBreaks indent fuel s).2.In text := by
  induction fuel generalizing s with
  | zero => exact h
  | succ fuel ih =>
      unfold blockBreaks
      dsimp only
      split_ifs
      · exact ih (in_toColumn _ _ h).lineBreak
      · exact in_toColumn _ _ h

lemma in_blockIndentation (fuel deepest : ℕ) (h : s.In text) :
    (blockIndentation fuel deepest s).2.2.In text := by
  induction fuel generalizing deepest s with
  | zero => exact h
  | succ fuel ih =>
      unfold blockIndentation
      dsimp only
      split_ifs
      · exact ih _ h.next
      · exact ih _ h.lineBreak
      · exact h

lemma in_blockLines (folded : Bool) (indent fuel : ℕ) (h : s.In text) :
    (blockLines folded indent fuel s).spot.In text := by
  induction fuel generalizing s with
  | zero => exact h
  | succ fuel ih =>
      unfold blockLines
      dsimp only
      have hbreaks := in_blockBreaks indent
        (((s.forward (s.run (!isBreakOrEnd ·)).length).lineBreak).2.rest.length + 1)
        (h.forward (s.run (!isBreakOrEnd ·)).length).lineBreak
      split
      · exact ih hbreaks
      · dsimp only
        exact hbreaks

lemma gives_block? (parent : ℤ) (h : s.In text) :
    Gives (fun r => r.2.In text) (block? parent s) := by
  have hlines (folded : Bool) (breaks : List Char) (indent : ℕ) {s : Spot} (h : s.In text) :
      (if atBlockLine indent s = true then
          let lines := blockLines folded indent (s.rest.length + 1) s
          { lines with text := breaks ++ lines.text }
        else ⟨[], [], breaks, s⟩ : BlockLines).spot.In text := by
    have hblock := in_blockLines folded indent (s.rest.length + 1) h
    split_ifs
    · dsimp only
      exact hblock
    · exact h
  unfold block?
  refine (gives_blockHeader? h.next).bind fun r hr => ?_
  obtain ⟨chomping, increment, s₁⟩ := r
  refine hr.restOfLine?.bind fun s hs => gives_some ?_
  cases increment with
  | none => exact hlines _ _ _ (in_blockIndentation _ _ hs)
  | some increment => exact hlines _ _ _ (in_blockBreaks _ _ hs)

/-! ## Names and directives -/

lemma gives_anchorName? (h : s.In text) : Gives (fun r => r.2.In text) (anchorName? s) := by
  unfold anchorName?
  dsimp only
  split_ifs
  · exact gives_none
  · exact gives_some (h.next.forward _)

lemma gives_uri? (h : s.In text) : Gives (fun r => r.2.In text) (uri? s) := by
  unfold uri?
  have huri : Gives (fun _ => True) (uriText? (s.rest.length + 1) s.rest) := fun _ _ => trivial
  refine huri.bind fun r _ => ?_
  dsimp only
  split_ifs
  · exact gives_none
  · exact gives_some (h.forward _)

lemma gives_tagHandle? (h : s.In text) : Gives (fun r => r.2.In text) (tagHandle? s) := by
  unfold tagHandle?
  dsimp only
  split_ifs
  · exact gives_none
  · exact gives_some h.next
  · exact gives_some (h.forward _)
  · exact gives_none

lemma gives_tag? (h : s.In text) : Gives (fun r => r.2.In text) (tag? s) := by
  have hfinish (t : WrittenTag) {s : Spot} (h : s.In text) :
      Gives (fun r : WrittenTag × Spot => r.2.In text)
        (if isGap s.here = true then some (t, s) else none) := by
    split_ifs
    · exact gives_some h
    · exact gives_none
  unfold tag?
  dsimp only
  split_ifs
  · refine (gives_uri? (h.forward 2)).bind fun r hr => ?_
    split_ifs
    · exact hfinish _ hr.next
    · exact gives_none
  · exact hfinish _ h.next
  · refine (gives_tagHandle? h).bind fun r hr => ?_
    exact (gives_uri? hr).bind fun r hr => hfinish _ hr
  · exact (gives_uri? h.next).bind fun r hr => hfinish _ hr

lemma gives_handleDirective? (h : s.In text) :
    Gives (fun r => r.2.In text) (handleDirective? s) := by
  unfold handleDirective?
  refine (gives_tagHandle? h.skipSpaces).bind fun r hr => ?_
  dsimp only
  split_ifs
  · exact gives_none
  · refine (gives_uri? hr.skipSpaces).bind fun r hr => ?_
    split_ifs
    · exact gives_some hr
    · exact gives_none

/-- **A number of a version is read**, since it has few digits. -/
lemma constructs_directiveNumber (htext : Scannable text) {parts : List Char}
    (hparts : ∀ c ∈ parts, isVersionPart c = true)
    (h : s.Behind text ('%' :: "YAML".toList ++ parts)) :
    Constructs (fun r => ∃ ds, (∀ c ∈ ds, isVersionPart c = true) ∧
      r.2.Behind text ('%' :: "YAML".toList ++ (parts ++ ds))) (directiveNumber s) := by
  have hdigits : ∀ c ∈ s.run Decimal.isDigit, Decimal.isDigit c = true :=
    fun c hc => List.mem_takeWhile_imp hc
  have hlength : (s.run Decimal.isDigit).length ≤ maxVersionDigits := by
    refine htext.versions parts _ ?_ hparts hdigits
    rw [← List.append_assoc]
    exact h.follows (List.takeWhile_prefix _)
  unfold directiveNumber
  dsimp only
  split_ifs
  · exact .malformed
  · omega
  · refine .ok ⟨s.run Decimal.isDigit, fun c hc => ?_, ?_⟩
    · rw [isVersionPart, hdigits c hc, Bool.or_true]
    · rw [← List.append_assoc]
      exact h.run Decimal.isDigit

lemma constructs_versionDirective (htext : Scannable text)
    (h : s.Behind text ('%' :: "YAML".toList)) :
    Constructs (fun r => r.2.In text) (versionDirective s) := by
  unfold versionDirective
  have hspaces : s.skipSpaces.Behind text ('%' :: "YAML".toList ++ s.run (· == ' ')) := h.run _
  have hrun : ∀ c ∈ s.run (· == ' '), isVersionPart c = true := fun c hc => by
    rw [isVersionPart, List.mem_takeWhile_imp hc, Bool.true_or, Bool.true_or]
  refine (constructs_directiveNumber htext hrun hspaces).bind fun r hr => ?_
  obtain ⟨ds, hds, hr⟩ := hr
  dsimp only
  split_ifs with hpoint
  · exact .malformed
  · have hhere : r.2.here = '.' := by simpa using hpoint
    have hnext := hr.next hhere (by decide)
    rw [List.append_assoc] at hnext
    have hparts : ∀ c ∈ s.run (· == ' ') ++ ds ++ ['.'], isVersionPart c = true := by
      rw [List.forall_mem_append, List.forall_mem_append]
      exact ⟨⟨hrun, hds⟩, by simp [isVersionPart]⟩
    refine (constructs_directiveNumber htext hparts hnext).bind fun r hr => ?_
    obtain ⟨ds, -, hr⟩ := hr
    split_ifs
    · exact .ok hr.in
    · exact .malformed

/-- **A directive is read** with its line. -/
lemma constructs_directive (htext : Scannable text) (h : s.Behind text []) (hhere : s.here = '%') :
    Constructs (fun r => r.2.In text) (directive s) := by
  have hname : (s.next.forward (s.next.run isNameChar).length).Behind text
      ('%' :: s.next.run isNameChar) := (h.next hhere (by decide)).run isNameChar
  have hfinish (d : Directive) {s : Spot} (h : s.In text) :
      Constructs (fun r : Directive × Spot => r.2.In text) (do
        let s ← orMalformed s.restOfLine?
        return (d, s)) :=
    (constructs_orMalformed h.restOfLine?).bind fun s hs => .ok hs
  unfold directive
  dsimp only
  generalize (s.next.forward (s.next.run isNameChar).length) = s' at hname ⊢
  split_ifs with h₁ h₂ h₃
  · exact .malformed
  · rw [beq_iff_eq] at h₂
    rw [h₂] at hname
    exact (constructs_versionDirective htext hname).bind fun r hr => hfinish _ hr
  · exact (constructs_orMalformed (gives_handleDirective? hname.in)).bind fun r hr => hfinish _ hr
  · have hreserved : Constructs (fun r => r.2.In text)
        (.ok (Directive.reserved, s'.skip (!isBreakOrEnd ·))) := .ok (hname.in.skip _)
    exact hreserved.bind fun r hr => hfinish _ hr

end Yaml

end SqlFrontEnd
