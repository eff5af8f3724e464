import Mathlib
import SqlFrontEnd.Proofs.Number.Decimal
import SqlFrontEnd.Token.Record
import SqlFrontEnd.Web.Page

/-!
# What a view shows

A person reads a view by its summary and by the rows of its table.  A row tells the same as the
record of a token, with the places in decimal, and it stands out where it reports a fault.

* `Component.rows`, `Component.summary?` — the parts of a view.
* `rowRecord?`, `isFaultRow` — what is read of a row.
* **`mapM_rowRecord?`** — the rows of a view of tokens tell the records of the tokens.
* **`countP_isFaultRow`** — as many rows stand out as there are reports of faults.
-/

namespace SqlFrontEnd.Web

/-! ## Reading a view -/

namespace Component

/-- The rows of the table of a view, below its header. -/
def rows : Component → List Component
  | .group .division _ [_, .group .table _ [_, .group .tableBody _ rows]] => rows
  | _ => []

/-- The summary above the table of a view. -/
def summary? : Component → Option Text
  | .group .division _ [.text .paragraph _ words, _] => some words
  | _ => none

end Component

/-- The integer that a cell shows. -/
def cellInteger? (text : Text) : Option ℤ := (Text.chars? text).bind Decimal.integer?

/-- The record that a row tells. -/
def rowRecord? : Component → Option Json
  | .group .tableRow _ [.text .cell _ kind, .wrap .cell _ (.text .code _ lexeme),
      .text .cell _ line, .text .cell _ column] => do
    let line ← cellInteger? line
    let column ← cellInteger? column
    return .object [("type", .string kind), ("lexeme", .string lexeme), ("line", .int line),
      ("column", .int column)]
  | _ => none

/-- Tests for a row that stands out. -/
def isFaultRow : Component → Bool
  | .group .tableRow attributes _ => attributes.contains (.style faultRowStyle)
  | _ => false

/-! ## The view of tokens -/

@[simp] lemma rows_resultView (tokens : List Token) :
    (resultView tokens).rows = tokens.map tokenRow := rfl

@[simp] lemma cellInteger?_integerText (i : ℤ) :
    cellInteger? (Text.ofString (Decimal.integerText i)) = some i := by
  rw [cellInteger?, Text.ofString, Text.chars?_ofChars, Option.bind_some,
    Decimal.integer?_integerText]

/-- A row tells the record of its token. -/
@[simp] lemma rowRecord?_tokenRow (t : Token) : rowRecord? (tokenRow t) = some t.record := by
  simp only [tokenRow, textCell, rowRecord?, cellInteger?_integerText]
  rfl

/-- **Rows tell records.** -/
theorem mapM_rowRecord? (tokens : List Token) :
    (tokens.map tokenRow).mapM rowRecord? = some (tokens.map Token.record) := by
  have hrow : rowRecord? ∘ tokenRow = fun t => pure t.record := funext rowRecord?_tokenRow
  rw [List.mapM_map, hrow, List.mapM_pure]
  rfl

@[simp] lemma isFaultRow_tokenRow (t : Token) : isFaultRow (tokenRow t) = t.isError := by
  rw [tokenRow, isFaultRow, rowStyle]
  cases t.isError <;> decide

/-- **The rows that stand out** are those of faults. -/
theorem countP_isFaultRow (tokens : List Token) :
    (tokens.map tokenRow).countP isFaultRow = errorCount tokens := by
  rw [List.countP_map, errorCount]
  exact List.countP_congr fun t _ => by rw [Function.comp_apply, isFaultRow_tokenRow]

end SqlFrontEnd.Web
