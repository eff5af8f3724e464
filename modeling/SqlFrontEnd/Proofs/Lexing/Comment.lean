import Mathlib
import SqlFrontEnd.Proofs.Lexing.Whitening

/-!
# Comments are as good as blanks

A comment gives no token, and all that it does for the text around it is to keep its two neighbours
apart and to take up room.  Spaces do both as well.  So a source in which the comments are written
over has the same tokens at the same places, and what stood in the comments cannot be told from
them.

* `Segment.isComment` — the comments that are skipped: those to the end of a line, and blocks that
  are closed.
* `blankComments` — a source with spaces in the place of its comments, marks and all.
* `segments_blankComments` — the segments that are no comments are found again.
* **`tokenize_blankComments`** — the tokens stay, and so sources that differ inside their comments
  only have the same tokens.
-/

namespace SqlFrontEnd

open Place Lexing

namespace Lexing

/-- Tests for a comment that is skipped. -/
def Segment.isComment (segment : Segment) : Bool :=
  match segment.item with
  | .lineComment | .blockComment => true
  | _ => false

end Lexing

/-- A source whose comments are written over with spaces.  The line feeds in them stay. -/
def blankComments (source : Text) : Text :=
  (segments source).flatMap fun segment =>
    if segment.isComment then blankOut segment.text else segment.text

namespace Lexing

/-- A comment begins with one of its marks. -/
lemma Selected.head?_of_isComment {segment : Segment} {rest : Text} (h : Selected segment rest)
    (hcomment : segment.isComment = true) : segment.text.head? ≠ some (.char '\n') := by
  have hfits := h.fits
  obtain ⟨item, text⟩ := segment
  cases item with
  | lineComment =>
      obtain ⟨body, rfl, -⟩ := hfits
      simp
  | blockComment =>
      obtain ⟨body, -, rfl⟩ := hfits
      simp
  | blank | word | number | string | operator | delimiter | fault => cases hcomment

/-- Comments are skipped. -/
lemma isComment_of_token? {policy : KeywordCase} {p : Place} {segment : Segment} {t : Token}
    (h : segment.token? policy p = some t) : segment.isComment = false := by
  obtain ⟨item, text⟩ := segment
  cases item with
  | lineComment | blockComment => cases h
  | blank | word | number | string | operator | delimiter | fault => rfl

/-- **The other segments are found again** between the spaces. -/
lemma segments_blankComments (source : Text) :
    segments (blankComments source) = whiten Segment.isComment (segments source) := by
  rw [blankComments, ← flatMap_text_whiten]
  exact segments_whiten fun segment rest hsel hcomment => hsel.head?_of_isComment hcomment

end Lexing

/-- **Comments are as good as blanks.**  A source whose comments are written over with spaces has
the same tokens, with the same lexemes, reports and places.  So no token depends on what a comment
contains: sources that are the same once their comments are written over have the same tokens. -/
theorem tokenize_blankComments (policy : KeywordCase) :
    (∀ source, tokenize policy (blankComments source) = tokenize policy source) ∧
      ∀ s t, blankComments s = blankComments t → tokenize policy s = tokenize policy t := by
  have hblank : ∀ source, tokenize policy (blankComments source) = tokenize policy source := by
    intro source
    have hkeep : ∀ {q : Place} {segment : Segment} {t : Token},
        segment.token? policy q = some t → true = !segment.isComment := by
      intro q segment t h
      rw [isComment_of_token? h, Bool.not_false]
    have htokens : tokensFrom policy start (whiten Segment.isComment (segments source)) =
        (tokensFrom policy start (segments source)).filter fun _ => true :=
      tokensFrom_whiten hkeep start (segments source)
    rw [tokenize, segments_blankComments, htokens, List.filter_true, tokenize]
  refine ⟨hblank, fun s t h => ?_⟩
  calc tokenize policy s
      = tokenize policy (blankComments s) := (hblank s).symm
    _ = tokenize policy (blankComments t) := by rw [h]
    _ = tokenize policy t := hblank t

/-- A line comment with a quote and a mark in it behind a word, and a block comment over two lines
between two operators that would otherwise be one.  With other contents they leave the same source
behind, and the same tokens. -/
theorem tokenize_eq_of_comments :
    blankComments (Text.ofString "a--'#\n<#-\n#=") = Text.ofString "a    \n<  \n =" ∧
      blankComments (Text.ofString "a-- b\n<#'\n#=") = Text.ofString "a    \n<  \n =" ∧
      tokenize .sensitive (Text.ofString "a--'#\n<#-\n#=") =
        tokenize .sensitive (Text.ofString "a-- b\n<#'\n#=") := by
  have hfirst : blankComments (Text.ofString "a--'#\n<#-\n#=") =
      Text.ofString "a    \n<  \n =" := by decide +kernel
  have hsecond : blankComments (Text.ofString "a-- b\n<#'\n#=") =
      Text.ofString "a    \n<  \n =" := by decide +kernel
  exact ⟨hfirst, hsecond, (tokenize_blankComments .sensitive).2 _ _ (hfirst.trans hsecond.symm)⟩

end SqlFrontEnd
