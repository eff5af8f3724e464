import SqlFrontEnd.Text.CodePoint

/-!
# Line ends

Text that comes from a file or from standard input may end its lines with a line feed, a carriage
return, or both.  It may be brought to the one form with a line feed.

* `unifyLineEnds`: that form, for any kind of text with two marks in it.
* `unifyNewlines`, `unifyBreaks`: for characters, and for code points.
-/

namespace SqlFrontEnd.Text

section

variable {α : Type} [DecidableEq α]

/-- A text in which every line ends with the second of two marks: the first one, or both in order,
stand for it. -/
def unifyLineEnds (back feed : α) : List α → List α
  | [] => []
  | [c] => if c = back then [feed] else [c]
  | c :: d :: s =>
    if c = back then
      if d = feed then feed :: unifyLineEnds back feed s
      else feed :: unifyLineEnds back feed (d :: s)
    else c :: unifyLineEnds back feed (d :: s)

/-- A text without the first mark is in that form already. -/
theorem unifyLineEnds_of_not_mem {back feed : α} {s : List α} (h : back ∉ s) :
    unifyLineEnds back feed s = s := by
  fun_induction unifyLineEnds back feed s with
  | case1 => rfl
  | case2 => simp at h
  | case3 => rfl
  | case4 => simp at h
  | case5 => simp at h
  | case6 c d s _ ih => rw [ih fun hs => h (List.mem_cons_of_mem _ hs)]

/-- The form of a text does not depend on how its parts are written. -/
theorem unifyLineEnds_map {β : Type} [DecidableEq β] {f : α → β}
    (hf : ∀ a b, f a = f b → a = b) (back feed : α) (s : List α) :
    unifyLineEnds (f back) (f feed) (s.map f) = (unifyLineEnds back feed s).map f := by
  have heq (a b : α) : f a = f b ↔ a = b := ⟨hf a b, congrArg f⟩
  fun_induction unifyLineEnds back feed s with
  | case1 => rfl
  | case2 => simp [unifyLineEnds]
  | case3 c h => simp [unifyLineEnds, heq, h]
  | case4 s ih => simpa [unifyLineEnds] using ih
  | case5 d s hd ih => simpa [unifyLineEnds, heq, hd] using ih
  | case6 c d s hc ih => simpa [unifyLineEnds, heq, hc] using ih

end

/-- Characters in which every line ends with a line feed. -/
def unifyNewlines (s : List Char) : List Char := unifyLineEnds '\r' '\n' s

/-- A text in which every line ends with a line feed. -/
def unifyBreaks (text : Text) : Text := unifyLineEnds (.char '\r') (.char '\n') text

theorem unifyNewlines_of_not_mem {s : List Char} (h : '\r' ∉ s) : unifyNewlines s = s :=
  unifyLineEnds_of_not_mem h

theorem unifyBreaks_ofChars (s : List Char) : unifyBreaks (ofChars s) = ofChars (unifyNewlines s) :=
  unifyLineEnds_map (fun _ _ => CodePoint.char.inj) '\r' '\n' s

/-- Characters without the one line feed that may end them. -/
def withoutFinalNewline (s : List Char) : List Char :=
  if s.getLast? == some '\n' then s.dropLast else s

end SqlFrontEnd.Text
