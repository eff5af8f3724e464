import Mathlib
import SqlFrontEnd.Proofs.Json.Reading

/-!
# Texts in different layouts

A layout puts space between the parts of a value and nowhere else, so a text without the space
outside its string literals is the text on one line.  What remains is printable ASCII, since a
string literal escapes everything else.

* `Plain`, `Allowed` — the characters that a text consists of.
* `squeezed` — a text without the space outside its string literals.
* `Squeezes`, `Leaves` — a text leaves another when it is squeezed, whatever comes behind it.
* `plain_of_mem_quotedText`, `leaves_quotedText` — string literals, with any text.
* **`Readable.allowed`**, **`Readable.squeezed_renderAt`** — the texts of values.
-/

namespace SqlFrontEnd.Json

open Text

/-! ## String literals -/

/-- Printable ASCII. -/
def Plain (c : Char) : Prop := 0x20 ≤ c.toNat ∧ c.toNat ≤ 0x7E

instance : DecidablePred Plain := fun _ => inferInstanceAs (Decidable (_ ∧ _))

/-- A digit of an escape is written as it is. -/
lemma plain_of_mem_padded {width n : ℕ} {c : Char} (h : c ∈ Hexadecimal.padded width n) :
    Plain c ∧ c ≠ '"' ∧ c ≠ '\\' := by
  induction width generalizing n with
  | zero => cases h
  | succ width ih =>
      rw [Hexadecimal.padded, List.mem_append, List.mem_singleton] at h
      obtain h | rfl := h
      · exact ih h
      · have hdigit : ∀ d < 16, Plain (Hexadecimal.digitChar d) ∧ Hexadecimal.digitChar d ≠ '"' ∧
            Hexadecimal.digitChar d ≠ '\\' := by decide
        exact hdigit _ (Nat.mod_lt n (by decide))

lemma plain_of_mem_unitEscape {n : ℕ} : ∀ c ∈ unitEscape n, Plain c := by
  rw [unitEscape, List.forall_mem_cons, List.forall_mem_cons]
  exact ⟨by decide, by decide, fun c hc => (plain_of_mem_padded hc).1⟩

/-- The ways in which a code point is written: by a letter, as it is, by one number, or by two. -/
inductive Written : List Char → Prop
  | letter {c : Char} : Plain c → Written ['\\', c]
  | itself {c : Char} : Plain c → c ≠ '"' → c ≠ '\\' → Written [c]
  | number (n : ℕ) : Written (unitEscape n)
  | pair (high low : ℕ) : Written (unitEscape high ++ unitEscape low)

lemma written_escaped (x : CodePoint) : Written (escaped x) := by
  cases x with
  | surrogate half => exact .number _
  | char c =>
      rw [escaped, escapedChar]
      split_ifs with hquote hslash h₁ h₂ h₃ h₄ h₅ hplain
      · exact .letter (by decide)
      · exact .letter (by decide)
      · exact .letter (by decide)
      · exact .letter (by decide)
      · exact .letter (by decide)
      · exact .letter (by decide)
      · exact .letter (by decide)
      · exact .itself hplain hquote hslash
      · exact .number _
      · exact .pair _ _

lemma Written.plain {s : List Char} (h : Written s) : ∀ c ∈ s, Plain c := by
  cases h with
  | letter hc => exact List.forall_mem_cons.2 ⟨by decide, List.forall_mem_singleton.2 hc⟩
  | itself hc => exact List.forall_mem_singleton.2 hc
  | number => exact plain_of_mem_unitEscape
  | pair => exact List.forall_mem_append.2 ⟨plain_of_mem_unitEscape, plain_of_mem_unitEscape⟩

/-- **String literals are plain**, whatever the text. -/
lemma plain_of_mem_quotedText (s : Text) : ∀ c ∈ quotedText s, Plain c := by
  rw [quotedText, List.cons_append, List.forall_mem_cons, List.forall_mem_append]
  refine ⟨by decide, fun c hc => ?_, by simp [Plain]⟩
  obtain ⟨x, -, hx⟩ := List.mem_flatMap.1 hc
  exact (written_escaped x).plain c hx

/-! ## Squeezing -/

/-- Where a character stands: outside the string literals, inside of one, or there behind a
backslash. -/
inductive Region where
  | outside | inside | escape
deriving DecidableEq, Repr

/-- The region behind a character. -/
def Region.next : Region → Char → Region
  | outside, c => if c = '"' then inside else outside
  | inside, c => if c = '"' then outside else if c = '\\' then escape else inside
  | escape, _ => inside

/-- A text from some region on, without the space outside its string literals. -/
def squeezedFrom : Region → List Char → List Char
  | _, [] => []
  | r, c :: s =>
    if r = .outside ∧ isSpace c = true then squeezedFrom r s else c :: squeezedFrom (r.next c) s

/-- A text without the space outside its string literals. -/
def squeezed (s : List Char) : List Char := squeezedFrom .outside s

/-- A text that leads from one region into another leaves a text when it is squeezed. -/
def Squeezes (r : Region) (s t : List Char) (r' : Region) : Prop :=
  ∀ rest, squeezedFrom r (s ++ rest) = t ++ squeezedFrom r' rest

/-- Outside the string literals a text leaves another when it is squeezed. -/
abbrev Leaves (s t : List Char) : Prop := Squeezes .outside s t .outside

section Squeezes

variable {r r' r'' : Region} {s s' t t' : List Char}

lemma Squeezes.nil : Squeezes r [] [] r := fun _ => rfl

lemma Squeezes.append (h : Squeezes r s t r') (h' : Squeezes r' s' t' r'') :
    Squeezes r (s ++ s') (t ++ t') r'' := by
  intro rest
  rw [List.append_assoc, h, h', List.append_assoc]

lemma Leaves.squeezed (h : Leaves s t) : squeezed s = t := by
  simpa [Json.squeezed, squeezedFrom] using h []

lemma leaves_space (h : ∀ c ∈ s, isSpace c = true) : Leaves s [] := by
  intro rest
  induction s with
  | nil => rfl
  | cons c s ih =>
      rw [List.forall_mem_cons] at h
      rw [List.cons_append, squeezedFrom, if_pos ⟨rfl, h.1⟩, ih h.2]

lemma leaves_itself (h : ∀ c ∈ s, isSpace c = false ∧ c ≠ '"') : Leaves s s := by
  intro rest
  induction s with
  | nil => rfl
  | cons c s ih =>
      rw [List.forall_mem_cons] at h
      obtain ⟨⟨hspace, hquote⟩, hs⟩ := h
      rw [List.cons_append, squeezedFrom, if_neg (by simp [hspace]), Region.next, if_neg hquote,
        ih hs, List.cons_append]

lemma squeezes_inside (h : ∀ c ∈ s, c ≠ '"' ∧ c ≠ '\\') : Squeezes .inside s s .inside := by
  intro rest
  induction s with
  | nil => rfl
  | cons c s ih =>
      rw [List.forall_mem_cons] at h
      obtain ⟨⟨hquote, hslash⟩, hs⟩ := h
      rw [List.cons_append, squeezedFrom, if_neg (by simp), Region.next, if_neg hquote,
        if_neg hslash, ih hs, List.cons_append]

end Squeezes

/-- A backslash and what stands behind it are kept. -/
lemma squeezes_escape (c : Char) : Squeezes .inside ['\\', c] ['\\', c] .inside := fun _ => rfl

lemma squeezes_unitEscape (n : ℕ) : Squeezes .inside (unitEscape n) (unitEscape n) .inside :=
  (squeezes_escape 'u').append (squeezes_inside fun c (hc : c ∈ Hexadecimal.padded 4 n) =>
    (plain_of_mem_padded hc).2)

lemma Written.squeezes {s : List Char} (h : Written s) : Squeezes .inside s s .inside := by
  cases h with
  | @letter c _ => exact squeezes_escape c
  | itself _ hquote hslash => exact squeezes_inside (List.forall_mem_singleton.2 ⟨hquote, hslash⟩)
  | number n => exact squeezes_unitEscape n
  | pair high low => exact (squeezes_unitEscape high).append (squeezes_unitEscape low)

/-- **String literals are kept**, with all the space inside them. -/
lemma leaves_quotedText (s : Text) : Leaves (quotedText s) (quotedText s) := by
  have hcontent : Squeezes .inside (s.flatMap escaped) (s.flatMap escaped) .inside := by
    induction s with
    | nil => exact .nil
    | cons x s ih => exact (written_escaped x).squeezes.append ih
  have hopen : Squeezes .outside ['"'] ['"'] .inside := fun _ => rfl
  have hclose : Squeezes .inside ['"'] ['"'] .outside := fun _ => rfl
  exact (hopen.append hcontent).append hclose

/-! ## Values -/

/-- The characters that stand in a text of a layout. -/
def Allowed (layout : Layout) (c : Char) : Prop := Plain c ∨ c = '\n' ∧ layout ≠ .compact

lemma allowed_of_mem_lineBreak {layout : Layout} {level : ℕ} :
    ∀ c ∈ layout.lineBreak level, Allowed layout c := by
  cases layout with
  | compact => exact List.forall_mem_nil _
  | indented width =>
      refine List.forall_mem_cons.2 ⟨.inr ⟨rfl, Layout.noConfusion⟩, fun c hc => ?_⟩
      rw [List.eq_of_mem_replicate hc]
      exact .inl (by decide)

lemma plain_of_mem_colon {layout : Layout} : ∀ c ∈ layout.colon, Plain c := by
  cases layout <;> simp [Layout.colon, Plain]

/-- Between brackets stands what is allowed, if the parts consist of that. -/
lemma allowed_of_mem_separated {layout : Layout} {level : ℕ} {parts : List (List Char)}
    (h : ∀ s ∈ parts, ∀ c ∈ s, Allowed layout c) :
    ∀ c ∈ separated layout level parts, Allowed layout c := by
  cases parts with
  | nil => exact List.forall_mem_nil _
  | cons s parts =>
      rw [List.forall_mem_cons] at h
      rw [separated, List.forall_mem_append, List.forall_mem_append]
      refine ⟨⟨allowed_of_mem_lineBreak, h.1⟩, fun c hc => ?_⟩
      obtain ⟨p, hp, hc⟩ := List.mem_flatMap.1 hc
      obtain rfl | hc := List.mem_cons.1 hc
      · exact .inl (by decide)
      · exact List.forall_mem_append.2 ⟨allowed_of_mem_lineBreak, h.2 p hp⟩ c hc

/-- What is written of an integer. -/
lemma mem_integerText {i : ℤ} {c : Char} (h : c ∈ (Decimal.integerText i).toList) :
    Plain c ∧ isSpace c = false ∧ c ≠ '"' := by
  have hdigit : c = '-' ∨ Decimal.isDigit c = true := by
    rw [Decimal.toList_integerText] at h
    split at h
    · exact (List.mem_cons.1 h).imp id Decimal.isDigit_of_mem_digits
    · exact .inr (Decimal.isDigit_of_mem_digits h)
  obtain rfl | hdigit := hdigit
  · decide
  · have hne := fun d (hd : Decimal.isDigit d = false) => ne_of_isDigit hdigit hd
    refine ⟨?_, isSpace_of_isDigit hdigit, hne '"' (by decide)⟩
    rw [Decimal.isDigit, Bool.and_eq_true, decide_eq_true_iff, decide_eq_true_iff] at hdigit
    obtain ⟨hlow, hhigh⟩ : '0'.toNat ≤ c.toNat ∧ c.toNat ≤ '9'.toNat := hdigit
    exact ⟨Nat.le_trans (by decide) hlow, Nat.le_trans hhigh (by decide)⟩

/-- **Texts of values are plain**, with ends of lines where the layout has them. -/
theorem Readable.allowed {limit : Option ℕ} {v : Json} (h : Readable limit v) (layout : Layout)
    (level : ℕ) : ∀ c ∈ renderAt layout level v, Allowed layout c := by
  induction h generalizing level with
  | null => simp [renderAt, Allowed, Plain]
  | bool b => cases b <;> simp [renderAt, Allowed, Plain]
  | int => exact fun c hc => .inl (mem_integerText hc).1
  | @string s => exact fun c hc => .inl (plain_of_mem_quotedText s c hc)
  | @array items _ ih =>
      have hitems : ∀ s ∈ itemTexts layout (level + 1) items, ∀ c ∈ s, Allowed layout c := by
        rw [itemTexts_eq_map, List.forall_mem_map]
        exact fun v hv => ih v hv (level + 1)
      cases items with
      | nil => simp [renderAt, Allowed, Plain]
      | cons v items =>
          rw [renderAt, List.forall_mem_append, List.forall_mem_append, List.forall_mem_cons,
            List.forall_mem_singleton]
          exact ⟨⟨⟨.inl (by decide), allowed_of_mem_separated hitems⟩, allowed_of_mem_lineBreak⟩,
            .inl (by decide)⟩
  | @object fields _ _ _ ih =>
      have hfields : ∀ s ∈ memberTexts layout (level + 1) fields, ∀ c ∈ s, Allowed layout c := by
        rw [memberTexts_eq_map, List.forall_mem_map]
        intro m hm
        rw [memberText, List.forall_mem_append, List.forall_mem_append]
        exact ⟨⟨fun c hc => .inl (plain_of_mem_quotedText m.1 c hc),
          fun c hc => .inl (plain_of_mem_colon c hc)⟩, ih m hm (level + 1)⟩
      cases fields with
      | nil => simp [renderAt, Allowed, Plain]
      | cons m fields =>
          rw [renderAt, List.forall_mem_append, List.forall_mem_append, List.forall_mem_cons,
            List.forall_mem_singleton]
          exact ⟨⟨⟨.inl (by decide), allowed_of_mem_separated hfields⟩, allowed_of_mem_lineBreak⟩,
            .inl (by decide)⟩

/-! ## Values, squeezed -/

lemma leaves_lineBreak (layout : Layout) (level : ℕ) : Leaves (layout.lineBreak level) [] :=
  leaves_space isSpace_of_mem_lineBreak

lemma leaves_colon (layout : Layout) : Leaves layout.colon [':'] := by
  cases layout with
  | compact => exact fun _ => rfl
  | indented width => exact fun _ => rfl

/-- Between brackets all layouts leave the same, if they do in the parts. -/
lemma leaves_separated {α : Type} {items : List α} {f g : α → List Char}
    (h : ∀ a ∈ items, Leaves (f a) (g a)) (layout : Layout) (level : ℕ) :
    Leaves (separated layout level (items.map f)) (separated .compact level (items.map g)) := by
  cases items with
  | nil => exact .nil
  | cons a items =>
      rw [List.forall_mem_cons] at h
      have hcomma : Leaves [','] [','] := fun _ => rfl
      have hrest : Leaves ((items.map f).flatMap fun p => ',' :: (layout.lineBreak level ++ p))
          ((items.map g).flatMap fun p => ',' :: (Layout.compact.lineBreak level ++ p)) := by
        rw [List.flatMap_map, List.flatMap_map]
        obtain ⟨-, h⟩ := h
        induction items with
        | nil => exact .nil
        | cons b items ih =>
            rw [List.forall_mem_cons] at h
            exact (hcomma.append ((leaves_lineBreak layout level).append h.1)).append (ih h.2)
      exact ((leaves_lineBreak layout level).append h.1).append hrest

/-- A text between brackets leaves them and what its inside leaves. -/
lemma leaves_brackets {s t : List Char} {opening closing : Char} (h : Leaves s t)
    (hopening : Leaves [opening] [opening]) (hclosing : Leaves [closing] [closing])
    (layout : Layout) (level : ℕ) :
    Leaves (opening :: s ++ layout.lineBreak level ++ [closing])
      (opening :: t ++ Layout.compact.lineBreak level ++ [closing]) :=
  ((hopening.append h).append (leaves_lineBreak layout level)).append hclosing

/-- **All layouts leave the text on one line.** -/
theorem Readable.leaves {limit : Option ℕ} {v : Json} (h : Readable limit v) (layout : Layout)
    (level : ℕ) : Leaves (renderAt layout level v) (renderAt .compact level v) := by
  induction h generalizing level with
  | null => exact fun _ => rfl
  | bool b => cases b <;> exact fun _ => rfl
  | int => exact leaves_itself fun c hc => (mem_integerText hc).2
  | @string s => exact leaves_quotedText s
  | @array items _ ih =>
      cases items with
      | nil => exact fun _ => rfl
      | cons v items =>
          rw [renderAt, renderAt, itemTexts_eq_map, itemTexts_eq_map]
          refine leaves_brackets (leaves_separated ?_ _ _) (fun _ => rfl) (fun _ => rfl) _ _
          exact fun w hw => ih w hw (level + 1)
  | @object fields _ _ _ ih =>
      cases fields with
      | nil => exact fun _ => rfl
      | cons m fields =>
          rw [renderAt, renderAt, memberTexts_eq_map, memberTexts_eq_map]
          refine leaves_brackets (leaves_separated ?_ _ _) (fun _ => rfl) (fun _ => rfl) _ _
          exact fun x hx => ((leaves_quotedText x.1).append (leaves_colon layout)).append
            (ih x hx (level + 1))

/-- **Layouts differ in space only**, and only outside string literals. -/
theorem Readable.squeezed_renderAt {limit : Option ℕ} {v : Json} (h : Readable limit v)
    (layout : Layout) : squeezed (renderAt layout 0 v) = renderAt .compact 0 v :=
  (h.leaves layout 0).squeezed

/-- Space inside a string literal is kept, also behind a quote that is escaped. -/
example : squeezed "[\n  \"a \\\" b\", 1\n]".toList = "[\"a \\\" b\",1]".toList := by decide

end SqlFrontEnd.Json
