import SqlFrontEnd.Text.CodePoint
import SqlFrontEnd.Token.Kind

/-!
# Tokens

A token carries its kind, its text, and the place where it starts.  A token of kind `error` carries
a diagnostic instead of a piece of the source.

* `Token`: the type.
* `Token.isError`, `hasErrors`: tests for faults.
-/

namespace SqlFrontEnd

/-- A token with its place in the source, both counted from one. -/
structure Token where
  kind : TokenKind
  lexeme : Text
  line : Int
  column : Int
deriving DecidableEq, Repr

namespace Token

/-- Tests for the report of a fault. -/
def isError (t : Token) : Bool := t.kind == .error

end Token

/-- Tests whether any token reports a fault. -/
def hasErrors (tokens : List Token) : Bool := tokens.any Token.isError

/-- The number of tokens that report a fault. -/
def errorCount (tokens : List Token) : Nat := tokens.countP Token.isError

end SqlFrontEnd
