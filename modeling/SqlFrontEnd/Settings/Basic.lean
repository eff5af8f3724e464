import SqlFrontEnd.Lexing.Keyword
import SqlFrontEnd.Log
import SqlFrontEnd.Text.CodePoint

/-!
# Settings

What the command line and the web page can be told by a configuration file.

* `Settings`: the settings, with the values that hold where nothing is said.
* `KeywordCase.name`, `KeywordCase.ofName?`: the spellings of the keyword policies.
-/

namespace SqlFrontEnd

namespace KeywordCase

/-- Every policy. -/
def all : List KeywordCase := [sensitive, insensitive]

/-- The name of a policy. -/
def name : KeywordCase → String
  | sensitive => "sensitive"
  | insensitive => "insensitive"

/-- The policy of a given name. -/
def ofName? (name : String) : Option KeywordCase := all.find? (·.name == name)

/-- Tests for the policy under which case matters. -/
def isSensitive (policy : KeywordCase) : Bool := policy == .sensitive

end KeywordCase

/-- The settings. -/
structure Settings where
  /-- The host that the web page binds to.  It may be any text. -/
  host : Text := "127.0.0.1"
  /-- The port that it listens on. -/
  port : Int := 8050
  debug : Bool := false
  logLevel : LogLevel := .warning
  keywordCase : KeywordCase := .sensitive
deriving DecidableEq, Repr

namespace Settings

/-- The settings where nothing is said. -/
def default : Settings := {}

/-- The name of a configuration file. -/
def fileName : String := ".sqlcompiler.yaml"

end Settings

end SqlFrontEnd
