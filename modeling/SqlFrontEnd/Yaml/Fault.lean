import SqlFrontEnd.Text.Quoted
import SqlFrontEnd.Yaml.Timestamp

/-!
# Faults of YAML texts

A text may fail to be well-formed, which is all that is said about it then.  Or a part of it says by
its tag or its spelling what it is to be, and cannot be that; then the part is reported.

* `ScalarFault`: what can be wrong with a part.
* `ScalarFault.message`: its wording.
* `Fault`: why a text has no value.
-/

namespace SqlFrontEnd.Yaml

/-- Why a part of a text denotes nothing. -/
inductive ScalarFault where
  | notAnInteger (base : Nat) (text : Text)
  | tooManyDigits (digits : Nat)
  | notANumber (text : Text)
  /-- A place of a floating-point number stands for more than the largest one. -/
  | placeTooLarge
  | notASwitch (text : Text)
  | noNumber
  | notATimestamp
  | timestamp (fault : TimestampFault)
  /-- A mapping stands where a timestamp must be written out. -/
  | mappingAsTimestamp
  /-- A mapping has itself as its text. -/
  | endless
  /-- An escape has a number that no code point has. -/
  | noCodePoint
  /-- An escape has a number of more than 31 bits. -/
  | escapeTooLarge
deriving DecidableEq, Repr

namespace ScalarFault

/-- The longest quotation of a text that is no integer. -/
def maxQuotation : Nat := 200

/-- The wording of a fault. -/
def message : ScalarFault → String
  | notAnInteger base text =>
    "invalid literal for int() with base " ++ Decimal.text base ++ ": " ++
      String.ofList ((Text.quoted text).toList.take maxQuotation)
  | tooManyDigits digits =>
    "Exceeds the limit (4300 digits) for integer string conversion: value has " ++
      Decimal.text digits ++ " digits; use sys.set_int_max_str_digits() to increase the limit"
  | notANumber text => "could not convert string to float: " ++ Text.quoted text
  | placeTooLarge => "int too large to convert to float"
  | notASwitch text => Text.quoted text
  | noNumber => "string index out of range"
  | notATimestamp => "'NoneType' object has no attribute 'groupdict'"
  | timestamp fault => fault.message
  | mappingAsTimestamp => "expected string or bytes-like object, got 'list'"
  | endless => "maximum recursion depth exceeded"
  | noCodePoint => "chr() arg not in range(0x110000)"
  | escapeTooLarge => "Python int too large to convert to C int"

end ScalarFault

/-- Why a text has no value. -/
inductive Fault where
  /-- The text is not well-formed. -/
  | malformed
  /-- A part of the text denotes nothing. -/
  | scalar (fault : ScalarFault)
deriving DecidableEq, Repr

/-- A result, where nothing means a text that is not well-formed. -/
def orMalformed {α : Type} : Option α → Except Fault α
  | some a => .ok a
  | none => .error .malformed

end SqlFrontEnd.Yaml
