import SqlFrontEnd.Yaml.Fault
import SqlFrontEnd.Yaml.Spot

/-!
# Tokens of YAML

The tokens of a YAML text are its indicators, the names and texts between them, and the beginnings
and ends of block collections, which the text shows only by its indentation.  Where a part of the
text denotes nothing, its fault stands as the last token.
-/

namespace SqlFrontEnd.Yaml

/-- A tag as it is written: a suffix after a handle, or a tag without a handle. -/
structure WrittenTag where
  handle : Option String
  suffix : String
deriving DecidableEq, Repr

/-- A directive that stands before a document. -/
inductive Directive where
  | version (major minor : Nat)
  | tagHandle (handle full : String)
  /-- A directive of a name that has no meaning. -/
  | reserved
deriving DecidableEq, Repr

/-- A token. -/
inductive Token where
  | directive (d : Directive)
  | documentStart
  | documentEnd
  | streamEnd
  | blockSequenceStart
  | blockMappingStart
  | blockEnd
  | flowSequenceStart
  | flowSequenceEnd
  | flowMappingStart
  | flowMappingEnd
  | blockEntry
  | flowEntry
  | key
  | value
  | alias (name : String)
  | anchor (name : String)
  | tag (t : WrittenTag)
  /-- A text, and whether it stands without quotes and without an indicator of its style. -/
  | scalar (text : Text) (plain : Bool)
  /-- A part of the text that denotes nothing. -/
  | unreadable (fault : ScalarFault)
deriving DecidableEq, Repr

end SqlFrontEnd.Yaml
