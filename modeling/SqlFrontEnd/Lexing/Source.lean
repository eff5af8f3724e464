import SqlFrontEnd.Json.Basic
import SqlFrontEnd.Lexing.Segment
import SqlFrontEnd.Log
import SqlFrontEnd.Token.Line

/-!
# Sources handed over as data

A source reaches the lexer as a JSON value, and only a string is a source.  A run of the lexer is
recorded in the log at the lowest level.

* `source`: the source that a value is, or what it is instead.
* `tokenizeLog`: the log line of a run.
-/

namespace SqlFrontEnd

/-- A value that was handed over as a source and is no text. -/
structure NotASource where
  found : Json
deriving Repr

namespace NotASource

/-- The name of the type of a value. -/
def typeName : Json → String
  | .null => "NoneType"
  | .bool _ => "bool"
  | .int _ => "int"
  | .real _ => "float"
  | .string _ => "str"
  | .array _ => "list"
  | .object _ => "dict"

/-- What is wrong with the value. -/
def message (fault : NotASource) : String :=
  "tokenize() expects a str, got " ++ typeName fault.found

end NotASource

/-- The source that a value is. -/
def source : Json → Except NotASource Text
  | .string s => .ok s
  | v => .error ⟨v⟩

/-- The log line of a run of the lexer. -/
def tokenizeLog (source : Text) (tokens : List Token) : LogLine :=
  ⟨.debug, "sqlcompiler.lexer.tokenizer",
    "Tokenized " ++ Decimal.text source.length ++ " character(s) into " ++ summary tokens⟩

end SqlFrontEnd
