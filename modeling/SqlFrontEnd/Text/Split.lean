/-!
# Splitting a text

* `splitAt`: the parts of a text between the occurrences of a character; a text without it is one
  part (`splitAt_of_not_mem`).
-/

namespace SqlFrontEnd.Text

variable {α : Type} [DecidableEq α]

/-- The parts of a text between the occurrences of a character. -/
def splitAt (separator : α) : List α → List (List α)
  | [] => [[]]
  | c :: s =>
    if c = separator then [] :: splitAt separator s
    else
      match splitAt separator s with
      | part :: parts => (c :: part) :: parts
      | [] => [[c]]

theorem splitAt_ne_nil (separator : α) (s : List α) : splitAt separator s ≠ [] := by
  cases s with
  | nil => simp [splitAt]
  | cons c s =>
    rw [splitAt]
    split
    · simp
    · split <;> simp

/-- A text without the character is one part. -/
theorem splitAt_of_not_mem {separator : α} {s : List α} (h : separator ∉ s) :
    splitAt separator s = [s] := by
  induction s with
  | nil => rfl
  | cons c s ih =>
    rw [List.mem_cons, not_or] at h
    rw [splitAt, if_neg (Ne.symm h.1), ih h.2]

end SqlFrontEnd.Text
