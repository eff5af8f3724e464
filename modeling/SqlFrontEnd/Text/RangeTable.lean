/-!
# Tables of code point ranges

A property of characters that a standard defines by enumeration is kept as a table: the inclusive
ranges of the code points that have it, in ascending order and apart from each other.  Because the
ranges ascend, a look-up may stop at the first range that begins above the code point, so ASCII
characters are decided by the first few entries of any table.

* `RangeTable.contains`: membership.
* `RangeTable.Ascending`: the tables in which it can be looked up so.  Every table is shown to be
  one of them where it stands.
* `RangeTable.contains_iff`: for an ascending table, membership means lying in one of its ranges.
* `RangeTable.forall_of_contains`: what is checked range by range holds of all members.
-/

namespace SqlFrontEnd.Text

/-- Inclusive ranges of code points, ascending. -/
abbrev RangeTable := List (Nat × Nat)

namespace RangeTable

/-- Tests whether a code point lies in one of the ranges of an ascending table. -/
def contains : RangeTable → Nat → Bool
  | [], _ => false
  | (low, high) :: rest, n =>
    if n < low then false else if n ≤ high then true else contains rest n

/-- A table ascends when each range begins above the end of the range before it. -/
def Ascending : RangeTable → Prop
  | [] => True
  | [(low, high)] => low ≤ high
  | (low, high) :: (low', high') :: rest =>
    low ≤ high ∧ high < low' ∧ Ascending ((low', high') :: rest)

/-- Decides whether a table ascends. -/
def decideAscending : (table : RangeTable) → Decidable (Ascending table)
  | [] => .isTrue trivial
  | [(low, high)] => inferInstanceAs (Decidable (low ≤ high))
  | (low, high) :: (low', high') :: rest =>
    have : Decidable (Ascending ((low', high') :: rest)) := decideAscending _
    inferInstanceAs
      (Decidable (low ≤ high ∧ high < low' ∧ Ascending ((low', high') :: rest)))

instance : DecidablePred Ascending := decideAscending

/-- The first range of an ascending table begins below all others. -/
theorem Ascending.low_le {low high : Nat} {rest : RangeTable}
    (h : Ascending ((low, high) :: rest)) : ∀ r ∈ rest, high < r.1 := by
  induction rest generalizing low high with
  | nil => simp
  | cons r rest ih =>
    obtain ⟨low', high'⟩ := r
    obtain ⟨-, hlt, htail⟩ := h
    intro s hs
    rcases List.mem_cons.1 hs with rfl | hs
    · exact hlt
    · have hle : low' ≤ high' := by cases rest <;> simp_all [Ascending]
      have := ih htail s hs
      omega

/-- The tail of an ascending table ascends. -/
theorem Ascending.tail {r : Nat × Nat} {rest : RangeTable} (h : Ascending (r :: rest)) :
    Ascending rest := by
  cases rest with
  | nil => trivial
  | cons s rest => exact h.2.2

/-- **Membership.**  In an ascending table, stopping early loses nothing. -/
theorem contains_iff {table : RangeTable} (h : table.Ascending) (n : Nat) :
    table.contains n = true ↔ ∃ r ∈ table, r.1 ≤ n ∧ n ≤ r.2 := by
  induction table with
  | nil => simp [contains]
  | cons r rest ih =>
    obtain ⟨low, high⟩ := r
    have hlow := h.low_le
    unfold contains
    split
    · next hn =>
      have hle : low ≤ high := by cases rest <;> simp_all [Ascending]
      simp only [Bool.false_eq_true, false_iff]
      rintro ⟨s, hs, h₁, -⟩
      rcases List.mem_cons.1 hs with rfl | hs
      · simp at h₁; omega
      · have := hlow s hs; omega
    · split
      · next h₁ h₂ => simp; exact Or.inl ⟨by omega, h₂⟩
      · next h₁ h₂ =>
        rw [ih h.tail]
        constructor
        · rintro ⟨s, hs, hr⟩; exact ⟨s, List.mem_cons_of_mem _ hs, hr⟩
        · rintro ⟨s, hs, hr⟩
          rcases List.mem_cons.1 hs with rfl | hs
          · simp at hr; omega
          · exact ⟨s, hs, hr⟩

/-- What is true of every code point of every range is true of what a table contains. -/
theorem forall_of_contains {table : RangeTable} {p : Nat → Prop}
    (hall : ∀ r ∈ table, ∀ n ∈ List.range' r.1 (r.2 + 1 - r.1), p n) {n : Nat}
    (h : table.contains n = true) : p n := by
  induction table with
  | nil => cases h
  | cons r rest ih =>
    obtain ⟨low, high⟩ := r
    obtain ⟨hfirst, hrest⟩ := List.forall_mem_cons.1 hall
    rw [contains] at h
    split at h
    · cases h
    · split at h
      · exact hfirst n (List.mem_range'_1.2 (by omega))
      · exact ih hrest h

end RangeTable

end SqlFrontEnd.Text
