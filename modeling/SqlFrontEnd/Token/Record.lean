import SqlFrontEnd.Json.Writer
import SqlFrontEnd.Token.Basic

/-!
# Tokens as records

A token is exchanged as a flat JSON record of its type, lexeme, line and column, in that order.  A
token that reports a fault is a record like any other.

* `Token.record`: the record of a token.
* `Token.ofRecord?`: the token of a record.
* `serialize`: the text of a list of tokens, if their places and the indentation can be written.
-/

namespace SqlFrontEnd

namespace Token

/-- The record of a token. -/
def record (t : Token) : Json :=
  .object [("type", .string t.kind.name), ("lexeme", .string t.lexeme), ("line", .int t.line),
    ("column", .int t.column)]

/-- The token of a record, whatever the order of its members. -/
def ofRecord? (record : Json) : Option Token :=
  match record.field? "type", record.field? "lexeme", record.field? "line",
    record.field? "column" with
  | some (.string name), some (.string lexeme), some (.int line), some (.int column) =>
    (TokenKind.ofName? name.asString).map (⟨·, lexeme, line, column⟩)
  | _, _, _, _ => none

end Token

/-- The records of tokens, in order. -/
def records (tokens : List Token) : Json := .array (tokens.map Token.record)

/-- The text of a list of tokens with an indentation. -/
def serialize (indent : Option Int) (tokens : List Token) : Except Json.WriteFault String :=
  (records tokens).write indent

end SqlFrontEnd
