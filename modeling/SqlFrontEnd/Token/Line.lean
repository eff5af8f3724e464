import SqlFrontEnd.Number.Decimal
import SqlFrontEnd.Token.Basic

/-!
# Tokens for people

For a person a token is shown as one line that names its kind, its lexeme and its place.  The lexeme
stands as it is, without quotes or escapes.  Of many tokens, a summary tells how many they are and
how many of them report a fault.

* `Token.shown`: the line of a token.
* `summary`: the summary of a list of tokens.
-/

namespace SqlFrontEnd

/-- The line that shows a token. -/
def Token.shown (t : Token) : Text :=
  Text.ofString ("Token: " ++ t.kind.name ++ ", Lexeme: ") ++ t.lexeme ++
    Text.ofString (", (line " ++ Decimal.integerText t.line ++ ", col " ++
      Decimal.integerText t.column ++ ")")

/-- How many tokens there are, and how many of them report a fault. -/
def summary (tokens : List Token) : String :=
  Decimal.text tokens.length ++ " token(s), " ++ Decimal.text (errorCount tokens) ++ " error(s)"

end SqlFrontEnd
