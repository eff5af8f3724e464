import SqlFrontEnd.Text.CodePoint

/-!
# Places in a text

A place is a line and a column, both counted from one.  A line feed ends its line; every other
code point, a carriage return among them, takes one column.

* `Place.next`: the place after one code point.
* `Place.after`: the place after a text.
* `Place.after_append`: places compose along concatenation.
-/

namespace SqlFrontEnd

/-- A line and a column. -/
structure Place where
  line : Nat
  column : Nat
deriving DecidableEq, Repr

namespace Place

/-- The place of the first character of a text. -/
def start : Place := ⟨1, 1⟩

/-- The place of what follows a code point. -/
def next (p : Place) (c : CodePoint) : Place :=
  if c = '\n' then ⟨p.line + 1, 1⟩ else ⟨p.line, p.column + 1⟩

/-- The place of what follows a text. -/
def after (p : Place) (text : Text) : Place := text.foldl next p

@[simp] theorem after_nil (p : Place) : p.after [] = p := rfl

@[simp] theorem after_cons (p : Place) (c : CodePoint) (text : Text) :
    p.after (c :: text) = (p.next c).after text := rfl

@[simp] theorem after_append (p : Place) (s t : Text) :
    p.after (s ++ t) = (p.after s).after t := List.foldl_append

end Place

end SqlFrontEnd
