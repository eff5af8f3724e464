import Mathlib
import SqlFrontEnd.Proofs.Number.Decimal
import SqlFrontEnd.Proofs.Token.Serialization
import SqlFrontEnd.Token.Line

/-!
# The line of a token, read back

The lexeme stands in the line of a token as it is.  It may hold the labels that stand around it, and
it may end in what looks like a place.  The line tells the token all the same.  What is before the
lexeme is read from the left: no name of a kind holds a comma, so the first comma ends it.  What is
behind the lexeme is read from the right: the column is the last run of digits and signs, and with
its label gone the line is the last one.

* `Text.endingInteger?` — the integer behind a label at the end of a text.
* `Token.ofLine?` — the token that a line shows.
* `endingInteger?_append`, `takeWhile_name` — reading from the right, and from the left.
* **`injective_shown`** — every token is read back from its line, so no two tokens share one.
-/

namespace SqlFrontEnd

namespace Text

/-- Tests for a code point that integers are written with. -/
def isIntegerPart (c : CodePoint) : Bool := c.holds fun c => decide (Decimal.IsIntegerPart c)

/-- What is before the label of the integer at the end of a text, and the integer. -/
def endingInteger? (label : String) (s : Text) : Option (Text × ℤ) := do
  let before ← (s.rdropWhile isIntegerPart).dropSuffix? (ofString label)
  let characters ← chars? (s.rtakeWhile isIntegerPart)
  return (before, ← Decimal.integer? characters)

end Text

open Text

/-- The token that a line shows: its kind up to the first comma, its place from the end, and its
lexeme between the two. -/
def Token.ofLine? (s : Text) : Option Token := do
  let s ← s.dropPrefix? (ofString "Token: ")
  let kind ← TokenKind.ofName? (asString (s.takeWhile (· != .char ',')))
  let s ← (s.dropWhile (· != .char ',')).dropPrefix? (ofString ", Lexeme: ")
  let s ← s.dropSuffix? (ofString ")")
  let (s, column) ← endingInteger? ", col " s
  let (lexeme, line) ← endingInteger? ", (line " s
  return ⟨kind, lexeme, line, column⟩

/-! ## From the right -/

section

variable {p : CodePoint → Bool} {before run : Text}

/-- A run at the end of a text is found, if what is before it does not end in its class. -/
lemma rdropWhile_append (hbefore : ∀ c ∈ before.getLast?, p c = false)
    (hrun : ∀ c ∈ run, p c = true) :
    (before ++ run).rdropWhile p = before ∧ (before ++ run).rtakeWhile p = run := by
  have hreversed : ∀ c ∈ run.reverse, p c = true := fun c hc => hrun c (List.mem_reverse.1 hc)
  have hstop : before.reverse.dropWhile p = before.reverse ∧ before.reverse.takeWhile p = [] := by
    cases hreverse : before.reverse with
    | nil => exact ⟨rfl, rfl⟩
    | cons c rest =>
        have hlast : before.getLast? = some c := by
          rw [← List.head?_reverse, hreverse, List.head?_cons]
        have hc : p c = false := hbefore c (by rw [hlast]; rfl)
        exact ⟨List.dropWhile_cons_of_neg (by simp [hc]), List.takeWhile_cons_of_neg (by simp [hc])⟩
  constructor
  · rw [List.rdropWhile, List.reverse_append, List.dropWhile_append_of_pos hreversed, hstop.1,
      List.reverse_reverse]
  · rw [List.rtakeWhile, List.reverse_append, List.takeWhile_append_of_pos hreversed, hstop.2,
      List.append_nil, List.reverse_reverse]

end

lemma dropSuffix?_append (s suffix : Text) : (s ++ suffix).dropSuffix? suffix = some s :=
  List.dropSuffix?_eq_some_iff.2 ⟨suffix, rfl, beq_self_eq_true suffix⟩

lemma dropPrefix?_append (start s : Text) : (start ++ s).dropPrefix? start = some s :=
  List.dropPrefix?_eq_some_iff.2 ⟨start, rfl, beq_self_eq_true start⟩

/-- **An integer behind a label**, which a space ends, is read back from the end of a text. -/
lemma endingInteger?_append {label : String} (hlabel : label.toList.getLast? = some ' ') (s : Text)
    (i : ℤ) :
    endingInteger? label (s ++ ofString label ++ ofString (Decimal.integerText i)) =
      some (s, i) := by
  have hbefore : ∀ c ∈ (s ++ ofString label).getLast?, isIntegerPart c = false := by
    have hlast : (ofString label).getLast? = some (.char ' ') := by
      rw [ofString, ofChars, List.getLast?_map, hlabel]
      rfl
    rw [List.getLast?_append, hlast]
    rintro c ⟨⟩
    decide
  have hrun : ∀ c ∈ ofString (Decimal.integerText i), isIntegerPart c = true := by
    intro c hc
    obtain ⟨d, hd, rfl⟩ := List.mem_map.1 hc
    exact decide_eq_true (Decimal.isIntegerPart_of_mem d hd)
  obtain ⟨hdrop, htake⟩ := rdropWhile_append hbefore hrun
  have hinteger : chars? (ofString (Decimal.integerText i)) =
      some (Decimal.integerText i).toList := chars?_ofChars _
  rw [endingInteger?, hdrop, htake, dropSuffix?_append, hinteger]
  simp only [Option.bind_eq_bind, Option.bind_some, Decimal.integer?_integerText]
  rfl

/-! ## From the left -/

/-- The first comma ends the name of a kind. -/
lemma takeWhile_name (kind : TokenKind) (s : Text) :
    (ofString kind.name ++ .char ',' :: s).takeWhile (· != .char ',') = ofString kind.name ∧
      (ofString kind.name ++ .char ',' :: s).dropWhile (· != .char ',') = .char ',' :: s := by
  have hall : ∀ kind ∈ TokenKind.all, ∀ c ∈ ofString kind.name, (c != .char ',') = true := by
    decide +kernel
  have hname := hall kind (TokenKind.mem_all kind)
  rw [List.takeWhile_append_of_pos hname, List.dropWhile_append_of_pos hname,
    List.takeWhile_cons_of_neg (by simp), List.dropWhile_cons_of_neg (by simp), List.append_nil]
  exact ⟨rfl, rfl⟩

/-! ## The whole line -/

/-- The line of a token, part by part. -/
lemma Token.shown_eq (t : Token) :
    t.shown = ofString "Token: " ++ (ofString t.kind.name ++ (ofString ", Lexeme: " ++
      (t.lexeme ++ ofString ", (line " ++ ofString (Decimal.integerText t.line) ++
        ofString ", col " ++ ofString (Decimal.integerText t.column) ++ ofString ")"))) := by
  simp only [Token.shown, ofString, ofChars, String.toList_append, List.map_append,
    List.append_assoc]

/-- **Reading back.** -/
lemma Token.ofLine?_line (t : Token) : Token.ofLine? t.shown = some t := by
  obtain ⟨hname, hbehind⟩ := takeWhile_name t.kind (ofString " Lexeme: " ++
    (t.lexeme ++ ofString ", (line " ++ ofString (Decimal.integerText t.line) ++
      ofString ", col " ++ ofString (Decimal.integerText t.column) ++ ofString ")"))
  have hlabel (s : Text) :
      ofString ", Lexeme: " ++ s = .char ',' :: (ofString " Lexeme: " ++ s) := rfl
  rw [t.shown_eq, Token.ofLine?, dropPrefix?_append]
  simp only [Option.bind_eq_bind, Option.bind_some]
  rw [hlabel, hname, hbehind, ← hlabel, dropPrefix?_append, asString_ofString,
    TokenKind.ofName?_name]
  simp only [Option.bind_some, dropSuffix?_append]
  rw [endingInteger?_append (by decide)]
  simp only [Option.bind_some]
  rw [endingInteger?_append (by decide)]
  rfl

/-- **The line of a token tells the token.**  Read from both ends it gives back the kind, the lexeme
and the place, whatever the lexeme looks like; so two tokens with one line are one token. -/
theorem Token.injective_shown :
    (∀ t : Token, Token.ofLine? t.shown = some t) ∧ Function.Injective Token.shown := by
  refine ⟨Token.ofLine?_line, fun t u h => ?_⟩
  have hread := t.ofLine?_line
  rw [h, u.ofLine?_line, Option.some.injEq] at hread
  exact hread.symm

/-- A lexeme that ends as a line does. -/
example : Token.ofLine? (ofString "Token: STRING, Lexeme: ', (line 3, col 4), (line 1, col 2)") =
    some ⟨.string, ofString "', (line 3, col 4)", 1, 2⟩ := by
  decide +kernel

end SqlFrontEnd
