import SqlFrontEnd.Text.Upper
import SqlFrontEnd.Token.Kind

/-!
# Classifying words

A word of the source is a keyword, the name of a column type, or an identifier.  The two lists of
reserved spellings are in upper case.  Under the insensitive policy a word is brought to upper case
before it is looked up, so `select` and `ſelect` are the keyword too; the token keeps the word as
it was written.

* `KeywordCase`: the two policies.
* `wordKind`: the kind of a word under a policy.
-/

namespace SqlFrontEnd

/-- How the case of a word matters when it is looked up. -/
inductive KeywordCase where
  | sensitive
  | insensitive
deriving DecidableEq, Repr

namespace KeywordCase

/-- The policy that a flag asks for. -/
def ofSensitive (sensitive : Bool) : KeywordCase := if sensitive then .sensitive else .insensitive

/-- The spelling under which a word is looked up. -/
def key : KeywordCase → Text → Text
  | sensitive, word => word
  | insensitive, word => Text.upper word

end KeywordCase

/-- The keyword of a given spelling. -/
def Keyword.ofSpelling? (word : Text) : Option Keyword :=
  Keyword.all.find? fun keyword => Text.ofString keyword.spelling == word

/-- The names of the column types. -/
def columnTypes : List String := ["INT", "FLOAT", "TEXT"]

/-- The kind of a word. -/
def wordKind (policy : KeywordCase) (word : Text) : TokenKind :=
  match Keyword.ofSpelling? (policy.key word) with
  | some keyword => .keyword keyword
  | none =>
    if columnTypes.any (Text.ofString · == policy.key word) then .typeName else .identifier

end SqlFrontEnd
