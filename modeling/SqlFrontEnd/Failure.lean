import SqlFrontEnd.Files.System
import SqlFrontEnd.Text.Stream
import SqlFrontEnd.Yaml.Fault

/-!
# Failures that end a run

Most of what can go wrong is reported and leaves the program in control.  A few causes are not: they
end whatever was running.

* `Failure`: those causes.
* `Failure.message`: their wording.
-/

namespace SqlFrontEnd

/-- A cause that ends a run. -/
inductive Failure where
  /-- Octets that must be UTF-8 are not. -/
  | undecodable (part : Text.Utf8.Malformed)
  /-- A path that is to be opened holds a null character. -/
  | nullInPath
  /-- A path cannot be followed. -/
  | file (error : FileError) (path : Path)
  /-- A part of a configuration file denotes nothing. -/
  | scalar (fault : Yaml.ScalarFault)
  /-- The collections of a configuration file are nested too deeply for the stack. -/
  | exhausted (wording : String)
  /-- A text that is to be printed cannot be. -/
  | unprintable (part : Text.Unencodable)
deriving DecidableEq, Repr

namespace Failure

/-- The wording of a cause. -/
def message : Failure → String
  | undecodable part => part.message
  | nullInPath => "embedded null byte"
  | file error path => error.message path
  | scalar fault => fault.message
  | exhausted wording => wording
  | unprintable part => part.message

end Failure

end SqlFrontEnd
