import SqlFrontEnd.Lexing.Place
import SqlFrontEnd.Number.Decimal
import SqlFrontEnd.Text.Quoted

/-!
# Faults in a source text

Reading a source never fails.  What is malformed is reported in place, and there are three ways to
be malformed: a code point that starts nothing, a block comment without its closing mark, and a
string literal without its closing quote.  The last two extend to the end of the text.

* `Diagnostic`: the three faults.
* `Diagnostic.message`: their wording, with the place where the faulty text starts.
-/

namespace SqlFrontEnd

/-- A fault in a source text. -/
inductive Diagnostic where
  | invalidCharacter (c : CodePoint)
  | unclosedComment
  | unclosedString
deriving DecidableEq, Repr

namespace Diagnostic

/-- What is wrong, without where. -/
def summary : Diagnostic → String
  | invalidCharacter c => "Invalid character " ++ String.ofList (Text.quotedWith '\'' [c]) ++ " at"
  | unclosedComment => "Unclosed comment starting at"
  | unclosedString => "Unclosed string literal starting at"

/-- The report of a fault at a place. -/
def message (d : Diagnostic) (p : Place) : String :=
  d.summary ++ " line " ++ Decimal.text p.line ++ ", column " ++ Decimal.text p.column

end Diagnostic

end SqlFrontEnd
