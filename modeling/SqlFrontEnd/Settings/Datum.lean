import SqlFrontEnd.Json.Basic

/-!
# Data from which settings are read

A configuration reaches the validation as a mapping from keys to data, whichever format it was
written in.  Only what the validation can tell apart is kept: a datum of any other kind, such as
nothing, a list or a date, is no valid setting and no further looked at.

* `Datum`, `DatumKey`: the data and their keys.
* `Configuration`: a mapping, or something else.
* `Configuration.ofJson`: the configuration that a JSON value is.
-/

namespace SqlFrontEnd

/-- A datum that may be the value of a setting. -/
inductive Datum where
  | bool (b : Bool)
  | int (i : Int)
  | real (x : Binary64)
  | text (s : Text)
  | octets (bs : List UInt8)
  | other
deriving DecidableEq, Repr

/-- The key of a datum.  A key that is no text is an integer or is shown in some other way. -/
inductive DatumKey where
  | name (s : Text)
  | index (i : Int)
  | shown (s : String)
deriving DecidableEq, Repr

/-- What is offered as a configuration. -/
inductive Configuration where
  | mapping (entries : List (DatumKey × Datum))
  | other
deriving DecidableEq, Repr

namespace Datum

/-- The datum that a JSON value is. -/
def ofJson : Json → Datum
  | .bool b => bool b
  | .int i => int i
  | .real x => real x
  | .string s => text s
  | _ => other

end Datum

namespace Configuration

/-- The configuration that a JSON value is. -/
def ofJson : Json → Configuration
  | .object fields => mapping (fields.map fun f => (.name f.1, .ofJson f.2))
  | _ => other

end Configuration

end SqlFrontEnd
