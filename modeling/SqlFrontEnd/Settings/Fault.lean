import SqlFrontEnd.Settings.Datum

/-!
# Faults in a configuration

Validation reports every fault of a configuration at once, each with the key that it concerns, a
code, and a wording.

* `Fault`: the faults.
* `Fault.code`, `Fault.message`: how they are reported.
* `FaultDetail`: a fault with its key.
-/

namespace SqlFrontEnd

/-- What can be wrong with a configuration. -/
inductive Fault where
  /-- The configuration is no mapping. -/
  | notAMapping
  | keyNotText
  | unknownKey
  | notText
  /-- Octets offered as a text are not UTF-8. -/
  | textUndecodable
  | notAnInteger
  | integerUnreadable
  | integerTooLarge
  | fractionalPart
  | notFinite
  | portTooSmall
  | portTooLarge
  | notABoolean
  | booleanUnreadable
  | notALogLevel
  | notAKeywordCase
deriving DecidableEq, Repr

namespace Fault

/-- The code of a fault. -/
def code : Fault → String
  | notAMapping => "model_type"
  | keyNotText => "invalid_key"
  | unknownKey => "extra_forbidden"
  | notText => "string_type"
  | textUndecodable => "string_unicode"
  | notAnInteger => "int_type"
  | integerUnreadable => "int_parsing"
  | integerTooLarge => "int_parsing_size"
  | fractionalPart => "int_from_float"
  | notFinite => "finite_number"
  | portTooSmall => "greater_than_equal"
  | portTooLarge => "less_than_equal"
  | notABoolean => "bool_type"
  | booleanUnreadable => "bool_parsing"
  | notALogLevel => "literal_error"
  | notAKeywordCase => "literal_error"

/-- The wording of a fault. -/
def message : Fault → String
  | notAMapping => "Input should be a valid dictionary or instance of AppConfig"
  | keyNotText => "Keys should be strings"
  | unknownKey => "Extra inputs are not permitted"
  | notText => "Input should be a valid string"
  | textUndecodable =>
    "Input should be a valid string, unable to parse raw data as a unicode string"
  | notAnInteger => "Input should be a valid integer"
  | integerUnreadable => "Input should be a valid integer, unable to parse string as an integer"
  | integerTooLarge => "Unable to parse input string as an integer, exceeded maximum size"
  | fractionalPart => "Input should be a valid integer, got a number with a fractional part"
  | notFinite => "Input should be a finite number"
  | portTooSmall => "Input should be greater than or equal to 1"
  | portTooLarge => "Input should be less than or equal to 65535"
  | notABoolean => "Input should be a valid boolean"
  | booleanUnreadable => "Input should be a valid boolean, unable to interpret input"
  | notALogLevel => "Input should be 'DEBUG', 'INFO', 'WARNING', 'ERROR' or 'CRITICAL'"
  | notAKeywordCase => "Input should be 'sensitive' or 'insensitive'"

end Fault

/-- A fault with the key that it concerns; a fault of the whole configuration has none. -/
structure FaultDetail where
  key : Option DatumKey
  fault : Fault
deriving DecidableEq, Repr

end SqlFrontEnd
