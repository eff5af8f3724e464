import Mathlib
import SqlFrontEnd.Proofs.Yaml.Parts

/-!
# Texts whose tokens can all be read

Collecting the tokens of a text goes through it from the front, one part after the other.  Keys and
indentation decide which tokens stand between the parts, and those all denote something.  So it
depends on the parts alone whether the tokens can be read.

* `Token.Denotes` — the tokens that stand for no fault.
* `Scan.Sound` — what every step of collecting tokens preserves: `Scan.Sound.step`,
  `Scan.Sound.run`.
* **`constructs_tokens`** — the tokens of a scannable text all denote something.
-/

namespace SqlFrontEnd

namespace Yaml

variable {text : List Char}

/-! ## Collecting tokens -/

/-- A token that denotes something. -/
def Token.Denotes : Token → Prop
  | .unreadable _ => False
  | _ => True

namespace Scan

/-- The spot is in the text, and all tokens so far denote something. -/
def Sound (text : List Char) (s : Scan) : Prop := s.spot.In text ∧ ∀ t ∈ s.tokens, t.Denotes

variable {s : Scan} {t : Token}

lemma Sound.push (h : s.Sound text) (ht : t.Denotes) : (s.push t).Sound text :=
  ⟨h.1, List.forall_mem_cons.2 ⟨ht, h.2⟩⟩

lemma Sound.insert (h : s.Sound text) (position : ℕ) (ht : t.Denotes) :
    (s.insert position t).Sound text := by
  refine ⟨h.1, fun t' ht' => ?_⟩
  obtain rfl | hmem := List.eq_or_mem_of_mem_insertIdx ht'
  · exact ht
  · exact h.2 t' hmem

lemma Sound.forward (h : s.Sound text) (n : ℕ) : (s.forward n).Sound text := ⟨h.1.forward n, h.2⟩

lemma Sound.moved (h : s.Sound text) {spot : Spot} (hspot : spot.In text) :
    Sound text { s with spot } :=
  ⟨hspot, h.2⟩

/-- Whether a key may start does not matter. -/
lemma Sound.setKey (h : s.Sound text) (mayStartKey : Bool) : Sound text { s with mayStartKey } := h

lemma Sound.toNextToken (fuel : ℕ) (h : s.Sound text) : (toNextToken fuel s).Sound text := by
  induction fuel generalizing s with
  | zero => exact h
  | succ fuel ih =>
      unfold Scan.toNextToken
      dsimp only
      have hspot := h.1.skipSpaces.skipComment
      split_ifs
      · exact ih ⟨hspot.lineBreak, h.2⟩
      · exact ⟨hspot, h.2⟩

/-! ### Keys and indentation -/

lemma Sound.dropStale? (h : s.Sound text) : Gives (Sound text) s.dropStale? := by
  unfold Scan.dropStale?
  split_ifs
  · exact gives_none
  · exact gives_some h

lemma Sound.dropKey? (h : s.Sound text) : Gives (Sound text) s.dropKey? := by
  unfold Scan.dropKey?
  split
  · exact gives_some h
  · split_ifs
    · exact gives_none
    · exact gives_some h

lemma Sound.noteKey? (h : s.Sound text) : Gives (Sound text) s.noteKey? := by
  unfold Scan.noteKey?
  split_ifs
  · exact h.dropKey?.bind fun s hs => gives_some hs
  · exact gives_some h

lemma Sound.unwindTo (column : ℤ) (outer : List ℤ) (h : s.Sound text) :
    (unwindTo column outer s).Sound text := by
  induction outer generalizing s with
  | nil => exact h
  | cons indent outer ih =>
      rw [Scan.unwindTo]
      split_ifs
      · exact ih (h.push (t := .blockEnd) trivial)
      · exact h

lemma Sound.unwind (h : s.Sound text) (column : ℤ) : (s.unwind column).Sound text := by
  unfold Scan.unwind
  split_ifs
  · exact h
  · exact h.unwindTo _ _

lemma Sound.indentTo? (h : s.Sound text) (column : ℕ) :
    Gives (Sound text) (s.indentTo? column) := by
  unfold Scan.indentTo?
  split_ifs
  · exact gives_some h
  · exact gives_none

lemma Sound.openBlock (h : s.Sound text) (ht : t.Denotes) : (s.openBlock t).Sound text := by
  unfold Scan.openBlock
  split
  · next s' hs => exact (h.indentTo? _ s' hs).push ht
  · exact h

lemma Sound.openBlock_of_not_inFlow (h : s.Sound text) (ht : t.Denotes) :
    (if s.inFlow = true then s else s.openBlock t).Sound text := by
  split_ifs
  · exact h
  · exact h.openBlock ht

/-! ### Taking tokens -/

lemma Sound.leaveDocument? (h : s.Sound text) : Gives (Sound text) s.leaveDocument? :=
  (h.unwind _).dropKey?.bind fun _ hs => gives_some hs

lemma Sound.streamEnd? (h : s.Sound text) : Gives (Sound text) s.streamEnd? :=
  h.leaveDocument?.bind fun _ hs => gives_some (hs.push (t := .streamEnd) trivial)

lemma Sound.documentMarker? (h : s.Sound text) (ht : t.Denotes) :
    Gives (Sound text) (s.documentMarker? t) :=
  h.leaveDocument?.bind fun _ hs => gives_some ((hs.push ht).forward 3)

lemma Sound.openBracket? (h : s.Sound text) (ht : t.Denotes) :
    Gives (Sound text) (s.openBracket? t) :=
  h.noteKey?.bind fun _ hs => gives_some ((Sound.push hs ht).forward 1)

lemma Sound.closeBracket? (h : s.Sound text) (ht : t.Denotes) :
    Gives (Sound text) (s.closeBracket? t) := by
  unfold Scan.closeBracket?
  split_ifs
  · exact h.dropKey?.bind fun _ hs => gives_some ((Sound.push hs ht).forward 1)
  · exact gives_none

lemma Sound.flowEntry? (h : s.Sound text) : Gives (Sound text) s.flowEntry? :=
  (h.setKey true).dropKey?.bind fun _ hs =>
    gives_some ((hs.push (t := .flowEntry) trivial).forward 1)

lemma Sound.blockEntry? (h : s.Sound text) : Gives (Sound text) s.blockEntry? := by
  unfold Scan.blockEntry?
  split
  · exact gives_none
  · have hopened := h.openBlock_of_not_inFlow (t := .blockSequenceStart) trivial
    exact (hopened.setKey true).dropKey?.bind fun _ hs =>
      gives_some ((hs.push (t := .blockEntry) trivial).forward 1)

lemma Sound.key? (h : s.Sound text) : Gives (Sound text) s.key? := by
  unfold Scan.key?
  split
  · exact gives_none
  · have hopened := h.openBlock_of_not_inFlow (t := .blockMappingStart) trivial
    exact (hopened.setKey _).dropKey?.bind fun _ hs =>
      gives_some ((hs.push (t := .key) trivial).forward 1)

lemma Sound.value? (h : s.Sound text) : Gives (Sound text) s.value? := by
  unfold Scan.value?
  split
  · next k _ =>
    have hkey : Sound text ({ s with
        possibleKeys := s.possibleKeys.filter (·.1 != s.depth),
        mayStartKey := false }.insert k.position .key) :=
      Sound.insert (s := { s with
        possibleKeys := s.possibleKeys.filter (·.1 != s.depth), mayStartKey := false }) h _ trivial
    dsimp only
    refine gives_some (Sound.forward (Sound.push (t := .value) ?_ trivial) 1)
    split
    · exact hkey
    · split
      · next s' hs => exact (hkey.indentTo? _ s' hs).insert _ (t := .blockMappingStart) trivial
      · exact hkey
  · split
    · exact gives_none
    · have hopened := h.openBlock_of_not_inFlow (t := .blockMappingStart) trivial
      exact gives_some (((hopened.setKey _).push (t := .value) trivial).forward 1)

lemma Sound.anchor? (h : s.Sound text) (make : String → Token)
    (hmake : ∀ name, (make name).Denotes) : Gives (Sound text) (s.anchor? make) := by
  refine h.noteKey?.bind fun s hs => (gives_anchorName? hs.1).bind fun r hr => gives_some ?_
  exact (hs.push (hmake _)).moved hr

lemma Sound.takeTag? (h : s.Sound text) : Gives (Sound text) s.takeTag? := by
  refine h.noteKey?.bind fun s hs => (gives_tag? hs.1).bind fun r hr => gives_some ?_
  exact (hs.push (t := .tag r.1) trivial).moved hr

lemma Sound.takeBlock? (h : s.Sound text) : Gives (Sound text) s.takeBlock? := by
  refine (h.setKey true).dropKey?.bind fun s hs => ?_
  refine (gives_block? _ hs.1).bind fun r hr => gives_some ?_
  exact (hs.push (t := .scalar (Text.ofChars r.1) false) trivial).moved hr

lemma Sound.takePlain? (h : s.Sound text) : Gives (Sound text) s.takePlain? := by
  refine h.noteKey?.bind fun s hs => gives_some ?_
  have hplain := in_plain s.inFlow (s.indent + 1) hs.1
  exact (hs.push (t := .scalar _ true) trivial).moved hplain

lemma Sound.takeOther? (h : s.Sound text) : Gives (Sound text) s.takeOther? := by
  unfold Scan.takeOther?
  refine h.streamEnd?.ite ?_
  refine (h.documentMarker? (t := .documentStart) trivial).ite ?_
  refine (h.documentMarker? (t := .documentEnd) trivial).ite ?_
  refine (h.openBracket? (t := .flowSequenceStart) trivial).ite ?_
  refine (h.openBracket? (t := .flowMappingStart) trivial).ite ?_
  refine (h.closeBracket? (t := .flowSequenceEnd) trivial).ite ?_
  refine (h.closeBracket? (t := .flowMappingEnd) trivial).ite ?_
  refine h.flowEntry?.ite (h.blockEntry?.ite (h.key?.ite (h.value?.ite ?_)))
  refine (h.anchor? .alias fun _ => trivial).ite ((h.anchor? .anchor fun _ => trivial).ite ?_)
  exact h.takeTag?.ite (h.takeBlock?.ite (h.takePlain?.ite gives_none))

lemma spot_unwindTo (column : ℤ) (outer : List ℤ) (s : Scan) :
    (unwindTo column outer s).spot = s.spot := by
  induction outer generalizing s with
  | nil => rfl
  | cons indent outer ih =>
      rw [Scan.unwindTo]
      split_ifs
      · exact ih _
      · rfl

lemma spot_unwind (s : Scan) (column : ℤ) : (s.unwind column).spot = s.spot := by
  unfold Scan.unwind
  split_ifs
  · rfl
  · exact spot_unwindTo _ _ _

lemma spot_dropKey? (s : Scan) : Gives (fun s' => s'.spot = s.spot) s.dropKey? := by
  unfold Scan.dropKey?
  split
  · exact gives_some rfl
  · split_ifs
    · exact gives_none
    · exact gives_some rfl

lemma spot_leaveDocument? (s : Scan) : Gives (fun s' => s'.spot = s.spot) s.leaveDocument? := by
  refine (spot_dropKey? (s.unwind (-1))).bind fun s' hs => gives_some ?_
  exact hs.trans (spot_unwind s (-1))

lemma Sound.takeDirective (htext : Scannable text) (h : s.Sound text)
    (hhere : s.spot.here = '%') : Constructs (Sound text) s.takeDirective := by
  have hleft : Gives (fun s' => s'.Sound text ∧ s'.spot = s.spot) s.leaveDocument? :=
    fun s' hs => ⟨h.leaveDocument? s' hs, spot_leaveDocument? s s' hs⟩
  refine (constructs_orMalformed hleft).bind fun s' hs => ?_
  obtain ⟨hs, hspot⟩ := hs
  rw [← hspot] at hhere
  refine (constructs_directive htext hs.1 hhere).bind fun r hr => .ok ?_
  exact (hs.push (t := .directive r.1) trivial).moved hr

lemma Sound.takeQuoted (htext : Scannable text) (h : s.Sound text) :
    Constructs (Sound text) s.takeQuoted := by
  refine (constructs_orMalformed h.noteKey?).bind fun s hs => ?_
  refine (constructs_quoted htext hs.1).bind fun r hr => .ok ?_
  exact (hs.push (t := .scalar r.1 false) trivial).moved hr

lemma Sound.take (htext : Scannable text) (h : s.Sound text) :
    Constructs (Sound text) s.take := by
  unfold Scan.take
  dsimp only
  split_ifs with hdirective
  · exact h.takeDirective htext (beq_iff_eq.1 (Bool.and_eq_true_iff.1 hdirective).1)
  · exact h.takeQuoted htext
  · exact constructs_orMalformed h.takeOther?

/-- **One step** leaves the spot in the text, and finds tokens that denote something. -/
lemma Sound.step (htext : Scannable text) (h : s.Sound text) :
    Constructs (Sound text) s.step :=
  (constructs_orMalformed (h.toNextToken _).dropStale?).bind fun _ hs => (hs.unwind _).take htext

/-- What follows a step.  This is unfolded by hand: whoever derives it evaluates a step of a scan
that is not known. -/
lemma run_succ (fuel : ℕ) (s : Scan) :
    s.run (fuel + 1) =
      match s.step with
      | .error .malformed => .error .malformed
      | .error (.scalar fault) =>
        (orMalformed s.settled?).map fun ts => (.unreadable fault :: ts).reverse
      | .ok s =>
        if s.tokens.head? == some .streamEnd then .ok s.tokens.reverse else s.run fuel := by
  delta Scan.run
  rfl

/-- **All steps**, by induction on their number. -/
lemma Sound.run (htext : Scannable text) (fuel : ℕ) (h : s.Sound text) :
    Constructs (fun ts => ∀ t ∈ ts, t.Denotes) (s.run fuel) := by
  induction fuel generalizing s with
  | zero =>
      have hzero : s.run 0 = .error .malformed := rfl
      rw [hzero]
      exact .malformed
  | succ fuel ih =>
      have hstep := h.step htext
      rw [run_succ]
      generalize s.step = result at hstep ⊢
      cases hstep with
      | malformed => exact .malformed
      | ok hs =>
          dsimp only
          split_ifs
          · exact .ok fun t ht => hs.2 t (List.mem_reverse.1 ht)
          · exact ih hs

end Scan

/-- **The tokens of a scannable text** all denote something. -/
theorem constructs_tokens (htext : Scannable text) :
    Constructs (fun ts => ∀ t ∈ ts, t.Denotes) (tokens text) := by
  have hstart : (Scan.start text).Sound text := ⟨List.suffix_refl _, List.forall_mem_nil _⟩
  unfold tokens
  refine Scan.Sound.run htext _ ?_
  split_ifs
  · exact hstart.forward 1
  · exact hstart

end Yaml

end SqlFrontEnd
