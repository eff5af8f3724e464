import Mathlib
import SqlFrontEnd.Proofs.Json.Quoting
import SqlFrontEnd.Proofs.Number.Decimal

/-!
# Values, written and read back

A value is read back from the text that it is written as, whatever the layout of the text and
whatever comes behind it.  A reader goes through the text once, so the statement is about a text
that goes on: reading stops where the value ends.  For all values but one that is marked by their
last character; a number ends where no further digit, point or exponent comes, and behind a value a
writer puts a comma, a bracket or the end of a line.

* `Readable` — the values that can be read back: no floating-point numbers, no lone halves in texts,
  no name twice in an object, and integers with no more digits than the reader has room for.
* `Reads` — reading the text of a value gives the value and leaves what comes behind it.
* `number?_digits`, `items?_closing`, `members?_closing` — numbers and the insides of brackets.
* **`Readable.reads`** — what is readable is read.
* **`readWithin?_renderAt`** — so is a whole text, with space behind it.
-/

namespace SqlFrontEnd.Json

open Text

/-! ## Values that can be read back -/

/-- The integers that a reader has room for. -/
def Fits (limit : Option ℕ) (i : ℤ) : Prop :=
  ∀ most ∈ limit, (Decimal.digits i.natAbs).length ≤ most

lemma fits_none (i : ℤ) : Fits none i := by
  intro most hmost
  cases hmost

/-- The values that can be read back. -/
inductive Readable (limit : Option ℕ) : Json → Prop
  | null : Readable limit .null
  | bool (b : Bool) : Readable limit (.bool b)
  | int {i : ℤ} : Fits limit i → Readable limit (.int i)
  | string {s : Text} : s.isScalar = true → Readable limit (.string s)
  | array {items : List Json} : (∀ v ∈ items, Readable limit v) → Readable limit (.array items)
  | object {fields : List (Text × Json)} : (fields.map Prod.fst).Nodup →
      (∀ m ∈ fields, m.1.isScalar = true) → (∀ m ∈ fields, Readable limit m.2) →
        Readable limit (.object fields)

/-- A character that a number may go on with. -/
def continuesNumber (c : Char) : Bool := Decimal.isDigit c || c == '.' || c == 'e' || c == 'E'

/-- A text behind a value, with which no number goes on. -/
def Delimited (rest : Text) : Prop := ∀ c ∈ rest.head?, c.holds continuesNumber = false

/-- The text of a value is read as the value, and what comes behind it is left. -/
def Reads (limit : Option ℕ) (layout : Layout) (v : Json) : Prop :=
  ∀ level fuel rest, (renderAt layout level v).length ≤ fuel → Delimited rest →
    value? limit fuel (ofChars (renderAt layout level v) ++ rest) = some (v, rest)

lemma delimited_cons {c : Char} (h : continuesNumber c = false) (rest : Text) :
    Delimited (.char c :: rest) := by
  intro d hd
  obtain rfl : .char c = d := by simpa using hd
  exact h

/-! ## Space -/

/-- Space is skipped up to the first character that is none. -/
lemma skipSpace_append {space : List Char} (h : ∀ c ∈ space, isSpace c = true) {c : Char}
    (hc : isSpace c = false) (rest : Text) :
    skipSpace (ofChars space ++ .char c :: rest) = .char c :: rest := by
  have hall : ∀ d ∈ ofChars space, d.holds isSpace = true := by
    intro d hd
    obtain ⟨c, hc, rfl⟩ := List.mem_map.1 hd
    exact h c hc
  rw [skipSpace, List.dropWhile_append_of_pos hall, List.dropWhile_cons_of_neg]
  simp [hc]

lemma skipSpace_cons {c : Char} (h : isSpace c = false) (rest : Text) :
    skipSpace (.char c :: rest) = .char c :: rest :=
  by
  simpa [ofChars] using skipSpace_append (List.forall_mem_nil _) h rest

lemma skipSpace_eq_nil {space : List Char} (h : ∀ c ∈ space, isSpace c = true) :
    skipSpace (ofChars space) = [] := by
  rw [skipSpace, List.dropWhile_eq_nil_iff]
  intro d hd
  obtain ⟨c, hc, rfl⟩ := List.mem_map.1 hd
  exact h c hc

/-- The line breaks of a layout are space. -/
lemma isSpace_of_mem_lineBreak {layout : Layout} {level : ℕ} :
    ∀ c ∈ layout.lineBreak level, isSpace c = true := by
  intro c hc
  cases layout with
  | compact => cases hc
  | indented width =>
      rcases List.mem_cons.1 hc with rfl | hc
      · decide
      · rw [List.eq_of_mem_replicate hc]
        decide

/-! ## Numbers -/

/-- A run of digits is taken as a whole. -/
lemma digits_append {ds : List Char} (h : ∀ c ∈ ds, Decimal.isDigit c = true) {rest : Text}
    (hrest : Delimited rest) : digits (ofChars ds ++ rest) = (ds, rest) := by
  induction ds with
  | nil =>
      cases rest with
      | nil => rfl
      | cons c rest =>
          have hc := hrest c rfl
          cases c with
          | char c =>
              have hdigit : Decimal.isDigit c = false := by
                simp only [CodePoint.holds_char, continuesNumber, Bool.or_eq_false_iff] at hc
                exact hc.1.1.1
              simp [ofChars, digits, hdigit]
          | surrogate half => rfl
  | cons c ds ih =>
      have hc := h c List.mem_cons_self
      have htail := ih fun d hd => h d (List.mem_cons_of_mem c hd)
      change digits (.char c :: (ofChars ds ++ rest)) = _
      rw [digits, if_pos hc, htail]

lemma fraction_eq_none {rest : Text} (h : Delimited rest) : fraction rest = none := by
  unfold fraction
  split
  · next s =>
    have hpoint := h (.char '.') rfl
    exact absurd hpoint (by decide)
  · rfl

lemma exponent_eq_none {rest : Text} (h : Delimited rest) : exponent rest = none := by
  cases rest with
  | nil => rfl
  | cons c rest =>
      have hmark : ¬ (c = .char 'e' ∨ c = .char 'E') := by
        rintro (rfl | rfl)
        · exact absurd (h _ rfl) (by decide)
        · exact absurd (h _ rfl) (by decide)
      simp only [exponent, if_neg hmark]

/-- **A number in decimal digits is read**, if there is room for it. -/
lemma number?_digits {limit : Option ℕ} {n : ℕ}
    (hfits : ∀ most ∈ limit, (Decimal.digits n).length ≤ most) (negative : Bool) {rest : Text}
    (hrest : Delimited rest) :
    number? limit negative (ofChars (Decimal.digits n) ++ rest) =
      some (.int (if negative then -(n : ℤ) else n), rest) := by
  have hrun := digits_append (fun _ hc => Decimal.isDigit_of_mem_digits (n := n) hc) hrest
  have hwhole : (if (Decimal.digits n).head? = some '0' then ['0'] else Decimal.digits n) =
      Decimal.digits n := by
    split
    · next hzero => rw [Decimal.head?_digits hzero, Decimal.digits_zero]
    · rfl
  have hroom : (limit.any fun most => decide (most < (Decimal.digits n).length)) = false := by
    cases limit with
    | none => rfl
    | some most => simpa using hfits most rfl
  have hdrop : (ofChars (Decimal.digits n) ++ rest).drop (Decimal.digits n).length = rest :=
    List.drop_left' (List.length_map _)
  have hne : (Decimal.digits n).isEmpty = false := by simp [Decimal.digits_ne_nil]
  simp only [number?, hrun, hwhole, hdrop, hne, fraction_eq_none hrest, exponent_eq_none hrest,
    hroom, Decimal.value_digits, Bool.false_eq_true, if_false]

/-! ## Words -/

/-- A digit is different from every character that is none. -/
lemma ne_of_isDigit {c d : Char} (hc : Decimal.isDigit c = true)
    (hd : Decimal.isDigit d = false) : c ≠ d := by
  rintro rfl
  rw [hc] at hd
  cases hd

lemma isSpace_of_isDigit {c : Char} (h : Decimal.isDigit c = true) : isSpace c = false := by
  have hne := fun d (hd : Decimal.isDigit d = false) => ne_of_isDigit h hd
  simp [isSpace, hne ' ' (by decide), hne '\t' (by decide), hne '\n' (by decide),
    hne '\r' (by decide)]

/-- A digit begins no word. -/
lemma word?_digit {c : Char} (h : Decimal.isDigit c = true) (s : Text) :
    word? (.char c :: s) = none ∧ word? (.char '-' :: .char c :: s) = none := by
  have hne := fun d (hd : Decimal.isDigit d = false) => (ne_of_isDigit h hd).symm
  simp [word?, words, ofString, ofChars, List.isPrefixOf, hne 'n' (by decide), hne 't' (by decide),
    hne 'f' (by decide), hne 'N' (by decide), hne 'I' (by decide), hne '-' (by decide)]

/-- A digit begins nothing but a number. -/
lemma value?_digit (limit : Option ℕ) (fuel : ℕ) {c : Char} (h : Decimal.isDigit c = true)
    (s : Text) : value? limit (fuel + 1) (.char c :: s) = number? limit false (.char c :: s) := by
  have hne := fun d (hd : Decimal.isDigit d = false) => ne_of_isDigit h hd
  rw [value?, (word?_digit h s).1]
  all_goals
    simp [hne '-' (by decide), hne '"' (by decide), hne '[' (by decide), hne '\x7b' (by decide)]

/-- A digit behind a minus sign begins nothing but a negative number. -/
lemma value?_dash (limit : Option ℕ) (fuel : ℕ) {c : Char} (h : Decimal.isDigit c = true)
    (s : Text) :
    value? limit (fuel + 1) (.char '-' :: .char c :: s) = number? limit true (.char c :: s) := by
  rw [value?, (word?_digit h s).2]

/-- **An integer is read**, if there is room for its digits. -/
lemma reads_int {limit : Option ℕ} {i : ℤ} (h : Fits limit i) (layout : Layout) :
    Reads limit layout (.int i) := by
  intro level fuel rest hfuel hrest
  obtain ⟨c, ds, hds, hc⟩ := Decimal.exists_digits_eq_cons i.natAbs
  have hnumber := fun negative => number?_digits h negative hrest
  have hcons : ofChars (c :: ds) ++ rest = .char c :: (ofChars ds ++ rest) := rfl
  rw [hds, hcons] at hnumber
  rw [renderAt, Decimal.toList_integerText, hds] at hfuel ⊢
  cases fuel with
  | zero => split at hfuel <;> simp at hfuel
  | succ fuel =>
      split
      · next hneg =>
        change value? limit (fuel + 1) (.char '-' :: .char c :: (ofChars ds ++ rest)) = _
        rw [value?_dash limit fuel hc, hnumber, if_pos rfl, Int.ofNat_natAbs_of_nonpos hneg.le,
          neg_neg]
      · next hneg =>
        rw [hcons, value?_digit limit fuel hc, hnumber, if_neg Bool.false_ne_true,
          Int.natAbs_of_nonneg (not_lt.1 hneg)]

/-! ## Brackets -/

/-- A new name comes last. -/
lemma insert_of_not_mem {fields : List (Text × Json)} {name : Text}
    (h : name ∉ fields.map Prod.fst) (v : Json) : insert fields name v = fields ++ [(name, v)] := by
  induction fields with
  | nil => rfl
  | cons m fields ih =>
      rw [List.map_cons, List.mem_cons, not_or] at h
      rw [insert, if_neg (Ne.symm h.1), ih h.2, List.cons_append]

/-- Objects in which no name stands twice keep their members as they are. -/
lemma ofMembers_of_nodup {fields : List (Text × Json)} (h : (fields.map Prod.fst).Nodup) :
    ofMembers fields = .object fields := by
  have hfold : ∀ before : List (Text × Json), (before.map Prod.fst ++ fields.map Prod.fst).Nodup →
      fields.foldl (fun found m => insert found m.1 m.2) before = before ++ fields := by
    intro before hbefore
    induction fields generalizing before with
    | nil => simp
    | cons m fields ih =>
        have hm : m.1 ∉ before.map Prod.fst := fun hmem =>
          (List.disjoint_of_nodup_append hbefore) hmem (by simp)
        rw [List.foldl_cons, insert_of_not_mem hm,
          ih (List.nodup_cons.1 h).2 _ (by simpa using hbefore), List.append_assoc]
        rfl
  exact congrArg object (by simpa using hfold [] (by simpa using h))

lemma itemTexts_eq_map (layout : Layout) (level : ℕ) (items : List Json) :
    itemTexts layout level items = items.map (renderAt layout level) := by
  induction items with
  | nil => rfl
  | cons v items ih => rw [itemTexts, ih, List.map_cons]

/-- The text of a member of an object. -/
def memberText (layout : Layout) (level : ℕ) (m : Text × Json) : List Char :=
  quotedText m.1 ++ layout.colon ++ renderAt layout level m.2

lemma memberTexts_eq_map (layout : Layout) (level : ℕ) (fields : List (Text × Json)) :
    memberTexts layout level fields = fields.map (memberText layout level) := by
  induction fields with
  | nil => rfl
  | cons m fields ih => rw [memberTexts, ih, List.map_cons, memberText]

/-- What stands behind the first part between two brackets: the other parts, and the bracket that
closes. -/
def closing (layout : Layout) (level outer : ℕ) (parts : List (List Char)) (close : Char) :
    List Char :=
  (parts.flatMap fun p => ',' :: (layout.lineBreak level ++ p)) ++ layout.lineBreak outer ++ [close]

section Closing

variable {layout : Layout} {level outer : ℕ} {parts : List (List Char)} {close : Char}

lemma closing_nil : closing layout level outer [] close = layout.lineBreak outer ++ [close] := rfl

lemma closing_cons {p : List Char} : closing layout level outer (p :: parts) close =
    ',' :: (layout.lineBreak level ++ (p ++ closing layout level outer parts close)) := by
  simp [closing]

/-- The parts between two brackets. -/
lemma separated_append_close (p : List Char) :
    separated layout level (p :: parts) ++ layout.lineBreak outer ++ [close] =
      layout.lineBreak level ++ (p ++ closing layout level outer parts close) := by
  simp [separated, closing]

/-- What begins with a line break goes on behind it. -/
lemma skipSpace_lineBreak {c : Char} (hc : isSpace c = false) (s : List Char) (rest : Text) :
    skipSpace (ofChars (layout.lineBreak level ++ c :: s) ++ rest) =
      .char c :: (ofChars s ++ rest) := by
  rw [ofChars_append, List.append_assoc]
  exact skipSpace_append isSpace_of_mem_lineBreak hc _

/-- No number goes on behind a value between brackets. -/
lemma delimited_closing (h : continuesNumber close = false) (rest : Text) :
    Delimited (ofChars (closing layout level outer parts close) ++ rest) := by
  cases parts with
  | nil =>
      rw [closing_nil]
      cases layout with
      | compact => exact delimited_cons h rest
      | indented width => exact delimited_cons (by decide) _
  | cons p parts =>
      rw [closing_cons]
      exact delimited_cons (by decide) _

/-- Before a comma there is no space. -/
lemma skipSpace_comma (s : List Char) (rest : Text) :
    skipSpace (ofChars (',' :: s) ++ rest) = .char ',' :: (ofChars s ++ rest) :=
  skipSpace_cons (by decide) (ofChars s ++ rest)

end Closing

/-- A text that begins with neither space nor a closing bracket. -/
def Begins (s : List Char) : Prop := ∃ c t, s = c :: t ∧ isSpace c = false ∧ c ≠ ']'

lemma Begins.append {s : List Char} (h : Begins s) (t : List Char) : Begins (s ++ t) := by
  obtain ⟨c, s, rfl, hc⟩ := h
  exact ⟨c, s ++ t, rfl, hc⟩

/-- Space goes no further than a line break. -/
lemma Begins.skipSpace_lineBreak {s : List Char} (h : Begins s) (layout : Layout) (level : ℕ)
    (t : List Char) (rest : Text) :
    skipSpace (ofChars (layout.lineBreak level ++ (s ++ t)) ++ rest) =
      ofChars (s ++ t) ++ rest := by
  obtain ⟨c, s, rfl, hc, -⟩ := h
  exact Json.skipSpace_lineBreak hc (s ++ t) rest

/-- **A value begins visibly**, and not with the bracket that would close the array around it. -/
lemma Readable.begins {limit : Option ℕ} {v : Json} (h : Readable limit v) (layout : Layout)
    (level : ℕ) : Begins (renderAt layout level v) := by
  cases h with
  | null => exact ⟨'n', _, rfl, by decide, by decide⟩
  | bool b =>
      cases b
      · exact ⟨'f', _, rfl, by decide, by decide⟩
      · exact ⟨'t', _, rfl, by decide, by decide⟩
  | @int i _ =>
      rw [renderAt, Decimal.toList_integerText]
      split
      · exact ⟨'-', _, rfl, by decide, by decide⟩
      · obtain ⟨c, ds, hds, hc⟩ := Decimal.exists_digits_eq_cons i.natAbs
        exact ⟨c, ds, hds, isSpace_of_isDigit hc, ne_of_isDigit hc (by decide)⟩
  | string _ => exact ⟨'"', _, rfl, by decide, by decide⟩
  | @array items _ =>
      cases items with
      | nil => exact ⟨'[', _, rfl, by decide, by decide⟩
      | cons v items =>
          rw [renderAt, List.cons_append, List.cons_append]
          exact ⟨'[', _, rfl, by decide, by decide⟩
  | @object fields _ _ _ =>
      cases fields with
      | nil => exact ⟨'\x7b', _, rfl, by decide, by decide⟩
      | cons m fields =>
          rw [renderAt, List.cons_append, List.cons_append]
          exact ⟨'\x7b', _, rfl, by decide, by decide⟩

section Inside

variable {limit : Option ℕ} {layout : Layout} {level outer : ℕ}

/-- **The items of an array are read**, from the first of them through the closing bracket. -/
lemma items?_closing {v : Json} {items : List Json}
    (hreads : ∀ w ∈ v :: items, Reads limit layout w)
    (hbegins : ∀ w ∈ items, Begins (renderAt layout level w)) {fuel : ℕ}
    (hfuel : (renderAt layout level v ++
      closing layout level outer (items.map (renderAt layout level)) ']').length ≤ fuel)
    (rest : Text) :
    items? limit fuel (ofChars (renderAt layout level v ++
      closing layout level outer (items.map (renderAt layout level)) ']') ++ rest) =
        some (v :: items, rest) := by
  induction items generalizing v fuel with
  | nil =>
      rw [List.map_nil, closing_nil, List.length_append, List.length_append,
        List.length_singleton] at hfuel
      cases fuel with
      | zero => omega
      | succ fuel =>
          have hv := hreads v List.mem_cons_self level fuel
            (ofChars (closing layout level outer [] ']') ++ rest) (by omega)
            (delimited_closing (by decide) rest)
          rw [List.map_nil, ofChars_append, List.append_assoc, items?, hv]
          dsimp only
          rw [closing_nil, skipSpace_lineBreak (by decide)]
          rfl
  | cons w items ih =>
      rw [List.map_cons, closing_cons, List.length_append, List.length_cons,
        List.length_append] at hfuel
      cases fuel with
      | zero => omega
      | succ fuel =>
          have htail := ih (v := w) (fun x hx => hreads x (List.mem_cons_of_mem v hx))
            (fun x hx => hbegins x (List.mem_cons_of_mem w hx)) (by omega : _ ≤ fuel)
          have hv := hreads v List.mem_cons_self level fuel
            (ofChars (closing layout level outer ((w :: items).map (renderAt layout level)) ']') ++
              rest) (by omega) (delimited_closing (by decide) rest)
          rw [ofChars_append, List.append_assoc, items?, hv]
          dsimp only
          rw [List.map_cons, closing_cons, skipSpace_comma]
          change (items? limit fuel (skipSpace _)).map _ = _
          rw [(hbegins w List.mem_cons_self).skipSpace_lineBreak, htail]
          rfl

/-- **A member of an object is read**, whatever closes the object or goes on with it. -/
lemma members?_memberText {m : Text × Json} (hname : m.1.isScalar = true)
    (hreads : Reads limit layout m.2) (hbegins : Begins (renderAt layout level m.2)) {fuel : ℕ}
    (hfuel : (memberText layout level m).length ≤ fuel) (tail : Text) (htail : Delimited tail) :
    (∀ s, skipSpace tail = .char '\x7d' :: s →
      members? limit (fuel + 1) (ofChars (memberText layout level m) ++ tail) = some ([m], s)) ∧
    ∀ s, skipSpace tail = .char ',' :: s →
      members? limit (fuel + 1) (ofChars (memberText layout level m) ++ tail) =
        (members? limit fuel (skipSpace s)).map fun r => (m :: r.1, r.2) := by
  have hv := hreads level fuel tail (by simp [memberText] at hfuel; omega) htail
  have hcolon : ∃ s, skipSpace (ofChars (layout.colon ++ renderAt layout level m.2) ++ tail) =
      .char ':' :: s ∧ skipSpace s = ofChars (renderAt layout level m.2) ++ tail := by
    obtain ⟨c, s, hs, hc, -⟩ := hbegins
    rw [hs]
    cases layout with
    | compact => exact ⟨_, skipSpace_cons (by decide) _, skipSpace_cons hc _⟩
    | indented width =>
        refine ⟨_, skipSpace_cons (by decide) _, ?_⟩
        have hspace : ∀ d ∈ [' '], isSpace d = true := by simp [isSpace]
        exact skipSpace_append hspace hc _
  obtain ⟨s, hs, hskip⟩ := hcolon
  have htext : ofChars (memberText layout level m) ++ tail =
      .char '"' :: (ofChars (m.1.flatMap escaped ++ ['"']) ++
        (ofChars (layout.colon ++ renderAt layout level m.2) ++ tail)) := by
    simp [memberText, quotedText, ofChars]
  rw [htext, members?, content?_quotedText hname]
  constructor
  · intro rest hrest
    simp only [hs, hskip, hv, hrest]
  · intro rest hrest
    simp only [hs, hskip, hv, hrest]

/-- **The members of an object are read**, from the first of them through the closing brace. -/
lemma members?_closing {m : Text × Json} {fields : List (Text × Json)}
    (hnames : ∀ x ∈ m :: fields, x.1.isScalar = true)
    (hreads : ∀ x ∈ m :: fields, Reads limit layout x.2)
    (hbegins : ∀ x ∈ m :: fields, Begins (renderAt layout level x.2)) {fuel : ℕ}
    (hfuel : (memberText layout level m ++
      closing layout level outer (fields.map (memberText layout level)) '\x7d').length ≤ fuel)
    (rest : Text) :
    members? limit fuel (ofChars (memberText layout level m ++
      closing layout level outer (fields.map (memberText layout level)) '\x7d') ++ rest) =
        some (m :: fields, rest) := by
  induction fields generalizing m fuel with
  | nil =>
      rw [List.map_nil, closing_nil, List.length_append, List.length_append,
        List.length_singleton] at hfuel
      cases fuel with
      | zero => omega
      | succ fuel =>
          have hm := members?_memberText (hnames m List.mem_cons_self)
            (hreads m List.mem_cons_self) (hbegins m List.mem_cons_self) (by omega : _ ≤ fuel)
            (ofChars (closing layout level outer [] '\x7d') ++ rest)
            (delimited_closing (by decide) rest)
          rw [List.map_nil, ofChars_append, List.append_assoc]
          refine hm.1 rest ?_
          rw [closing_nil, skipSpace_lineBreak (by decide)]
          rfl
  | cons x fields ih =>
      rw [List.map_cons, closing_cons, List.length_append, List.length_cons,
        List.length_append] at hfuel
      cases fuel with
      | zero => omega
      | succ fuel =>
          have htail := ih (m := x) (fun y hy => hnames y (List.mem_cons_of_mem m hy))
            (fun y hy => hreads y (List.mem_cons_of_mem m hy))
            (fun y hy => hbegins y (List.mem_cons_of_mem m hy)) (by omega : _ ≤ fuel)
          have hx : Begins (memberText layout level x) := ⟨'"', _, rfl, by decide, by decide⟩
          have hm := members?_memberText (hnames m List.mem_cons_self)
            (hreads m List.mem_cons_self) (hbegins m List.mem_cons_self) (by omega : _ ≤ fuel)
            (ofChars (closing layout level outer ((x :: fields).map (memberText layout level))
              '\x7d') ++ rest) (delimited_closing (by decide) rest)
          rw [ofChars_append, List.append_assoc,
            hm.2 _ (by rw [List.map_cons, closing_cons, skipSpace_comma]),
            hx.skipSpace_lineBreak, htail]
          rfl

end Inside

/-! ## Values -/

/-- An array that is not closed at once goes on with its items. -/
lemma value?_array (limit : Option ℕ) (fuel : ℕ) {s : Text} {t : List Char} {rest : Text}
    (h : skipSpace s = ofChars t ++ rest) (ht : Begins t) :
    value? limit (fuel + 1) (.char '[' :: s) =
      (items? limit fuel (ofChars t ++ rest)).map fun r => (.array r.1, r.2) := by
  obtain ⟨c, t, rfl, -, hc⟩ := ht
  have hcons : ofChars (c :: t) ++ rest = .char c :: (ofChars t ++ rest) := rfl
  rw [value?, h, hcons]
  simp [hc]

/-- An object that is not closed at once goes on with its members. -/
lemma value?_object (limit : Option ℕ) (fuel : ℕ) {s t : Text}
    (h : skipSpace s = .char '"' :: t) :
    value? limit (fuel + 1) (.char '\x7b' :: s) =
      (members? limit fuel (.char '"' :: t)).map fun r => (ofMembers r.1, r.2) := by
  rw [value?, h]
  rfl

/-- **Values are read back.**  What is readable is read, whatever comes behind it that no number
would go on with. -/
theorem Readable.reads {limit : Option ℕ} {v : Json} (h : Readable limit v) (layout : Layout) :
    Reads limit layout v := by
  induction h with
  | null =>
      rintro level (_ | fuel) rest hfuel -
      · cases hfuel
      · rfl
  | bool b =>
      rintro level (_ | fuel) rest hfuel -
      · cases b <;> cases hfuel
      · cases b <;> rfl
  | int hi => exact reads_int hi layout
  | @string s hs =>
      rintro level (_ | fuel) rest hfuel -
      · cases hfuel
      · change (content? (ofChars (s.flatMap escaped ++ ['"']) ++ rest)).map _ = _
        rw [content?_quotedText hs]
        rfl
  | @array items hitems ih =>
      rintro level (_ | fuel) rest hfuel -
      · cases items <;> cases hfuel
      · cases items with
        | nil => rfl
        | cons v items =>
            have hbegins := fun w hw => (hitems w hw).begins layout (level + 1)
            rw [renderAt, itemTexts_eq_map, List.map_cons, List.cons_append, List.cons_append,
              separated_append_close] at hfuel ⊢
            rw [List.length_cons, List.length_append] at hfuel
            have hskip := (hbegins v List.mem_cons_self).skipSpace_lineBreak layout (level + 1)
              (closing layout (level + 1) level (items.map (renderAt layout (level + 1))) ']') rest
            have hopen := (hbegins v List.mem_cons_self).append
            refine (value?_array limit fuel hskip (hopen _)).trans ?_
            rw [items?_closing ih (fun w hw => hbegins w (List.mem_cons_of_mem v hw)) (by omega)]
            rfl
  | @object fields hnodup hnames hfields ih =>
      rintro level (_ | fuel) rest hfuel -
      · cases fields <;> cases hfuel
      · cases fields with
        | nil => rfl
        | cons m fields =>
            have hbegins := fun x hx => (hfields x hx).begins layout (level + 1)
            have hm : Begins (memberText layout (level + 1) m) :=
              ⟨'"', _, rfl, by decide, by decide⟩
            rw [renderAt, memberTexts_eq_map, List.map_cons, List.cons_append, List.cons_append,
              separated_append_close] at hfuel ⊢
            rw [List.length_cons, List.length_append] at hfuel
            have hskip := hm.skipSpace_lineBreak layout (level + 1)
              (closing layout (level + 1) level (fields.map (memberText layout (level + 1))) '\x7d')
              rest
            refine (value?_object limit fuel hskip).trans ?_
            refine (congrArg (Option.map _)
              (members?_closing hnames ih hbegins (by omega) rest)).trans ?_
            rw [Option.map_some, ofMembers_of_nodup hnodup]

/-- **A whole text is read back**, with space behind the value. -/
theorem readWithin?_renderAt {limit : Option ℕ} {v : Json} (h : Readable limit v) (layout : Layout)
    {space : List Char} (hspace : ∀ c ∈ space, isSpace c = true) :
    readWithin? limit (ofChars (renderAt layout 0 v ++ space)) = some v := by
  have hdelimited : Delimited (ofChars space) := by
    cases space with
    | nil => simp [Delimited, ofChars]
    | cons c space =>
        refine delimited_cons ?_ _
        have hc := hspace c List.mem_cons_self
        simp only [isSpace, Bool.or_eq_true, beq_iff_eq] at hc
        obtain ((rfl | rfl) | rfl) | rfl := hc <;> decide
  obtain ⟨c, s, hs, hc, -⟩ := h.begins layout 0
  have hskip : skipSpace (ofChars (renderAt layout 0 v ++ space)) =
      ofChars (renderAt layout 0 v) ++ ofChars space := by
    rw [hs, List.cons_append, ← ofChars_append, List.cons_append]
    exact skipSpace_cons hc _
  have hread := h.reads layout 0 ((ofChars (renderAt layout 0 v ++ space)).length + 1)
    (ofChars space) (by simp [ofChars]; omega) hdelimited
  rw [readWithin?, hskip, hread]
  simp [skipSpace_eq_nil hspace]

end SqlFrontEnd.Json
