/-!
# Kinds of tokens

A token of the query language is a keyword, the name of a column type, an identifier, a literal, an
operator, a delimiter, or the report of a fault in the source.

* `TokenKind`: the kinds.
* `TokenKind.all`: every kind once, in the order in which they are documented.
* `TokenKind.name`: the name a kind has in every output.
* `TokenKind.ofName?`: the kind of a given name.
-/

namespace SqlFrontEnd

/-- The reserved words. -/
inductive Keyword where
  | SELECT | FROM | WHERE | INSERT | INTO | VALUES | UPDATE | SET | DELETE | CREATE | TABLE
  | AND | OR | NOT
deriving DecidableEq, Repr

namespace Keyword

/-- Every keyword once. -/
def all : List Keyword :=
  [SELECT, FROM, WHERE, INSERT, INTO, VALUES, UPDATE, SET, DELETE, CREATE, TABLE, AND, OR, NOT]

/-- The spelling of a keyword. -/
def spelling : Keyword → String
  | SELECT => "SELECT"
  | FROM => "FROM"
  | WHERE => "WHERE"
  | INSERT => "INSERT"
  | INTO => "INTO"
  | VALUES => "VALUES"
  | UPDATE => "UPDATE"
  | SET => "SET"
  | DELETE => "DELETE"
  | CREATE => "CREATE"
  | TABLE => "TABLE"
  | AND => "AND"
  | OR => "OR"
  | NOT => "NOT"

end Keyword

/-- The comparison and arithmetic operators. -/
inductive Operator where
  | equal | greaterThan | greaterEqual | lessThan | lessEqual | notEqual
  | plus | minus | multiply | divide
deriving DecidableEq, Repr

namespace Operator

/-- Every operator once. -/
def all : List Operator :=
  [equal, greaterThan, greaterEqual, lessThan, lessEqual, notEqual, plus, minus, multiply, divide]

/-- The name of an operator. -/
def name : Operator → String
  | equal => "EQUAL"
  | greaterThan => "GREATER_THAN"
  | greaterEqual => "GREATER_EQUAL"
  | lessThan => "LESS_THAN"
  | lessEqual => "LESS_EQUAL"
  | notEqual => "NOT_EQUAL"
  | plus => "PLUS"
  | minus => "MINUS"
  | multiply => "MULTIPLY"
  | divide => "DIVIDE"

end Operator

/-- The brackets and separators. -/
inductive Delimiter where
  | leftParen | rightParen | comma | semicolon
deriving DecidableEq, Repr

namespace Delimiter

/-- Every delimiter once. -/
def all : List Delimiter := [leftParen, rightParen, comma, semicolon]

/-- The name of a delimiter. -/
def name : Delimiter → String
  | leftParen => "LEFT_PAREN"
  | rightParen => "RIGHT_PAREN"
  | comma => "COMMA"
  | semicolon => "SEMICOLON"

end Delimiter

/-- What a token is. -/
inductive TokenKind where
  | keyword (word : Keyword)
  | typeName
  | identifier
  | number
  | string
  | operator (symbol : Operator)
  | delimiter (symbol : Delimiter)
  | error
deriving DecidableEq, Repr

namespace TokenKind

/-- Every kind once, in the documented order. -/
def all : List TokenKind :=
  Keyword.all.map keyword ++ [typeName, identifier, number, string] ++
    Operator.all.map operator ++ Delimiter.all.map delimiter ++ [error]

/-- The name of a kind.  A keyword's kind is named as the keyword is spelled. -/
def name : TokenKind → String
  | keyword word => word.spelling
  | typeName => "TYPE"
  | identifier => "IDENTIFIER"
  | number => "NUMBER"
  | string => "STRING"
  | operator symbol => symbol.name
  | delimiter symbol => symbol.name
  | error => "ERROR"

/-- The kind of a given name. -/
def ofName? (name : String) : Option TokenKind := all.find? (·.name == name)

/-- No kind is left out of the list. -/
theorem mem_all (kind : TokenKind) : kind ∈ all := by
  rcases kind with word | _ | _ | _ | _ | symbol | symbol | _
  · cases word <;> decide
  · decide
  · decide
  · decide
  · decide
  · cases symbol <;> decide
  · cases symbol <;> decide
  · decide

end TokenKind

end SqlFrontEnd
