import Mathlib
import SqlFrontEnd.Proofs.Json.Reading

/-!
# Objects whose members are moved

The members of an object are no sequence: who reads an object asks for a member by its name.  So
ordering them by their names leaves an object as good as it was, and it still can be read back.

* `SameMembers` — two objects that differ in the order of their members only.
* `HasMember` — an object with a certain member among others.
* `sameMembers_sortKeys` — what ordering does to an object of plain values.
* **`Readable.sortKeys`** — what can be read back still can be after ordering.
-/

namespace SqlFrontEnd.Json

/-! ## Members in any order -/

/-- Objects with the same members, in whatever order. -/
def SameMembers (v w : Json) : Prop :=
  ∃ fields others, v = .object fields ∧ w = .object others ∧ fields.Perm others

/-- A value that is an object with a certain member. -/
def HasMember (v : Json) (name : Text) (value : Json) : Prop :=
  ∃ fields, v = .object fields ∧ (name, value) ∈ fields

lemma SameMembers.hasMember_iff {v w : Json} (h : SameMembers v w) {name : Text} {value : Json} :
    v.HasMember name value ↔ w.HasMember name value := by
  obtain ⟨fields, others, rfl, rfl, hperm⟩ := h
  simp [HasMember, hperm.mem_iff]

/-! ## Ordering by name -/

lemma sortKeysItems_eq_map (items : List Json) : sortKeysItems items = items.map sortKeys := by
  induction items with
  | nil => rfl
  | cons v items ih => rw [sortKeysItems, ih, List.map_cons]

lemma sortKeysFields_eq_map (fields : List (Text × Json)) :
    sortKeysFields fields = fields.map fun m => (m.1, sortKeys m.2) := by
  induction fields with
  | nil => rfl
  | cons m fields ih => rw [sortKeysFields, ih, List.map_cons]

/-- Ordering moves the members of an object, and orders within them. -/
lemma sortKeys_object (fields : List (Text × Json)) : ∃ sorted,
    sortKeys (.object fields) = .object sorted ∧
      sorted.Perm (fields.map fun m => (m.1, sortKeys m.2)) := by
  refine ⟨_, rfl, ?_⟩
  rw [sortKeysFields_eq_map]
  exact List.mergeSort_perm _ _

/-- An object whose members hold no others keeps them. -/
lemma sameMembers_sortKeys {fields : List (Text × Json)} (h : ∀ m ∈ fields, sortKeys m.2 = m.2) :
    SameMembers (sortKeys (.object fields)) (.object fields) := by
  obtain ⟨sorted, heq, hperm⟩ := sortKeys_object fields
  have hfields : fields.map (fun m => (m.1, sortKeys m.2)) = fields := by
    rw [List.map_congr_left (g := id) fun m hm => by simp [h m hm], List.map_id]
  exact ⟨sorted, fields, heq, rfl, hfields ▸ hperm⟩

/-- **Ordering by name keeps values readable.** -/
theorem Readable.sortKeys {limit : Option ℕ} {v : Json} (h : Readable limit v) :
    Readable limit v.sortKeys := by
  induction h with
  | null => exact .null
  | bool b => exact .bool b
  | int hi => exact .int hi
  | string hs => exact .string hs
  | @array items _ ih =>
      rw [Json.sortKeys, sortKeysItems_eq_map]
      exact .array (List.forall_mem_map.2 ih)
  | @object fields hnodup hnames _ ih =>
      obtain ⟨sorted, heq, hperm⟩ := sortKeys_object fields
      rw [heq]
      refine .object ?_ ?_ ?_
      · have hnames := (hperm.map Prod.fst).nodup_iff
        rw [List.map_map] at hnames
        exact hnames.2 hnodup
      · intro m hm
        obtain ⟨x, hx, rfl⟩ := List.mem_map.1 (hperm.mem_iff.1 hm)
        exact hnames x hx
      · intro m hm
        obtain ⟨x, hx, rfl⟩ := List.mem_map.1 (hperm.mem_iff.1 hm)
        exact ih x hx

end SqlFrontEnd.Json
