import Mathlib
import SqlFrontEnd.Proofs.Lexing.Fault

/-!
# Sources that go on

What has been read of a source may turn out to be the beginning of a longer one.  Then only the last
segment is open: every segment before it is followed by something already, and no rule looks further
than that.  And where the longer source goes on with a new line, nothing is open at all, unless a
comment or a literal is not closed.

* `exists_settled` — a source is cut for good up to its last segment.
* **`dropLast_tokenize_prefix`** — all tokens but the last one stay when a source goes on.
* `Token.lower` — a token told some lines further down.
* **`tokenize_newline`** — a source that goes on with a new line keeps all its tokens, and the
  tokens of the further lines are those of the further lines alone, lowered.
-/

namespace SqlFrontEnd

open Place Lexing

/-! ## What is settled -/

namespace Lexing

/-- **A source is cut for good up to its last segment.**  Whatever follows, everything before that
segment is cut as it was. -/
lemma exists_settled (s : Text) :
    ∃ settled last, s = settled ++ last ∧ (segments last).length ≤ 1 ∧
      ∀ t, Segmented (last ++ t) settled (segments settled) := by
  have hwhole := segmented_segments s
  obtain hnil | ⟨before, segment, hsegs⟩ := List.eq_nil_or_concat (segments s)
  · obtain rfl : s = [] := by simpa [hnil] using (segments_flatten s).symm
    exact ⟨[], [], rfl, by simp [hnil], fun t => by rw [hnil]; exact .nil⟩
  · rw [hsegs, List.concat_eq_append] at hwhole
    obtain ⟨settled, last, rfl, hbefore, hlast⟩ := hwhole.split
    have hone : segments last = [segment] := (segmented_iff.1 hlast).symm
    -- the last segment is something, and it stands behind all others already
    have hne : last ≠ [] := by
      rintro rfl
      rw [segments] at hone
      cases hone
    rw [List.append_nil] at hbefore
    have halone : Segmented [] settled before := Segmented.restrict hbefore
    rw [segmented_iff.1 halone] at hbefore
    exact ⟨settled, last, rfl, by rw [hone]; exact le_rfl, fun t => hbefore.extend hne t⟩

/-- One segment gives at most one token. -/
lemma length_tokensFrom_le (policy : KeywordCase) (p : Place) (segs : List Segment) :
    (tokensFrom policy p segs).length ≤ segs.length := by
  induction segs generalizing p with
  | nil => exact le_rfl
  | cons segment segs ih =>
      rw [tokensFrom, List.length_append, List.length_cons, Nat.add_comm]
      refine Nat.add_le_add (ih _) ?_
      cases segment.token? policy p with
      | none => exact Nat.zero_le 1
      | some t => exact le_rfl

end Lexing

/-- **Reading on.**  A source that goes on keeps the tokens of what is settled in it, and for the
others only the piece from the last segment on has to be read again. -/
lemma tokenize_append_of_settled (policy : KeywordCase) (s : Text) :
    ∃ settled last, (tokenize policy last).length ≤ 1 ∧ ∀ t, tokenize policy (s ++ t) =
      tokenize policy settled ++
        (tokenize policy (last ++ t)).map (·.relocate (start.after settled)) := by
  obtain ⟨settled, last, rfl, hone, hcut⟩ := exists_settled s
  refine ⟨settled, last, (length_tokensFrom_le _ _ _).trans hone, fun t => ?_⟩
  rw [List.append_assoc, tokenize_append (hcut t)]
  rfl

/-- **Prefix stability.**  When a source goes on, all its tokens but the last one stay as they are,
with their places. -/
theorem dropLast_tokenize_prefix (policy : KeywordCase) (s t : Text) :
    (tokenize policy s).dropLast <+: tokenize policy (s ++ t) := by
  obtain ⟨settled, last, hone, hread⟩ := tokenize_append_of_settled policy s
  have hs := hread []
  rw [List.append_nil, List.append_nil] at hs
  rw [hs, hread t]
  refine List.IsPrefix.trans ?_ (List.prefix_append _ _)
  cases hlast : tokenize policy last with
  | nil =>
      rw [List.map_nil, List.append_nil]
      exact List.dropLast_prefix _
  | cons token others =>
      have hothers : others = [] := by
        rw [hlast] at hone
        simpa using hone
      rw [hothers, List.map_singleton, List.dropLast_concat]

/-- The last token may go altogether: a dash is an operator, and two dashes begin a comment. -/
example : tokenize .sensitive [.char '-'] = [⟨.operator .minus, [.char '-'], 1, 1⟩] ∧
    tokenize .sensitive [.char '-', .char '-'] = [] := by decide +kernel

/-! ## A new line -/

/-- A token told a number of lines further down.  The line in a diagnostic goes with it. -/
def Token.lower (lines : ℕ) (t : Token) : Token :=
  { t with
    lexeme :=
      if t.isError then
        t.lexeme.rdrop (wording t.line t.column).length ++ wording (t.line + lines) t.column
      else t.lexeme
    line := t.line + lines }

/-- To tell a token where a line begins is to tell it that many lines further down. -/
lemma Token.relocate_eq_lower (lines : ℕ) (t : Token) :
    t.relocate ⟨lines + 1, 1⟩ = t.lower lines := by
  have hline : ((lines + 1 : ℕ) : ℤ) + (t.line - 1) = t.line + lines := by
    push_cast
    ring
  have hcolumn : (if t.line = 1 then ((1 : ℕ) : ℤ) + (t.column - 1) else t.column) = t.column := by
    split
    · push_cast
      ring
    · rfl
  simp only [Token.relocate, Token.lower, hline, hcolumn]

namespace Lexing

/-- A source in which everything is closed is cut as if a new line were known to follow. -/
lemma segmented_newline {s : Text} (h : ∀ segment ∈ segments s, segment.item.isUnclosed = false)
    (t : Text) :
    Segmented t (s ++ [.char '\n']) (segments s ++ [⟨.blank, [.char '\n']⟩]) := by
  have hblank : (CodePoint.char '\n').holds Text.isBlank = true := by decide
  have hends : ∀ segment ∈ segments s, segment.item.EndsAt (.char '\n') := by
    intro segment hsegment
    exact ⟨h segment hsegment, fun _ => rfl⟩
  have hbefore := (segmented_segments s).before_blank hblank hends t
  have hline : Segmented t [.char '\n'] [⟨.blank, [.char '\n']⟩] := segmented_blank hblank t
  exact Segmented.append hbefore hline

end Lexing

/-- **Line by line.**  Where nothing is left unclosed, a source and what follows it on new lines are
read one after the other: the tokens of the further lines are told as many lines further down as
the source has, and are the same otherwise. -/
theorem tokenize_newline (policy : KeywordCase) (s t : Text)
    (h : ∀ token ∈ tokenize policy s, token.isUnclosed = false) :
    tokenize policy (s ++ .char '\n' :: t) =
      tokenize policy s ++ (tokenize policy t).map (·.lower (1 + s.count (.char '\n'))) := by
  have hcut := segmented_newline (isUnclosed_of_mem_segments h) t
  have hplace : start.after (s ++ [.char '\n']) = ⟨1 + s.count (.char '\n') + 1, 1⟩ := by
    rw [after_append, after_eq start s]
    rfl
  have hsegs : tokensFrom policy .start (segments s ++ [⟨.blank, [.char '\n']⟩]) =
      tokenize policy s := by
    rw [tokensFrom_append]
    exact List.append_nil _
  calc tokenize policy (s ++ .char '\n' :: t)
      = tokenize policy (s ++ [.char '\n'] ++ t) := by
        rw [List.append_assoc, List.singleton_append]
    _ = tokenize policy s ++
          (tokenize policy t).map (·.relocate (start.after (s ++ [.char '\n']))) := by
        rw [tokenize_append hcut, hsegs]
    _ = tokenize policy s ++ (tokenize policy t).map (·.lower (1 + s.count (.char '\n'))) := by
        rw [hplace]
        simp only [Token.relocate_eq_lower]

/-- A line comment with a quote in it, after an invalid character, and an invalid character on the
line below: the comment ends with its line, and the second report names line two. -/
theorem tokenize_newline_of_comment :
    (∀ token ∈ tokenize .sensitive [.char '!', .char '-', .char '-', .char '\''],
        token.isUnclosed = false) ∧
      tokenize .sensitive ([.char '!', .char '-', .char '-', .char '\''] ++
        .char '\n' :: [.char '=', .char '!']) =
      [⟨.error, Text.ofString ((Diagnostic.invalidCharacter (.char '!')).message ⟨1, 1⟩), 1, 1⟩,
        ⟨.operator .equal, [.char '='], 2, 1⟩,
        ⟨.error, Text.ofString ((Diagnostic.invalidCharacter (.char '!')).message ⟨2, 2⟩),
          2, 2⟩] := by
  have hclosed : ∀ token ∈ tokenize .sensitive [.char '!', .char '-', .char '-', .char '\''],
      token.isUnclosed = false := by decide +kernel
  refine ⟨hclosed, ?_⟩
  exact (tokenize_newline .sensitive _ _ hclosed).trans (by decide +kernel)

end SqlFrontEnd
