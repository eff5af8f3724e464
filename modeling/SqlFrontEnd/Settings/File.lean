import SqlFrontEnd.Failure
import SqlFrontEnd.Settings.Validation
import SqlFrontEnd.Text.Newline
import SqlFrontEnd.Yaml.Document

/-!
# Configuration files

A configuration file is a YAML text with a mapping, or with nothing.  Reading one gives the
settings, or a configuration error that is reported with the path, or one of the failures that are
not.

Two things depend on the libraries that are at hand: how they word what is wrong in detail, and how
deeply collections may be nested before they run out of stack.

* `Libraries`: what the libraries contribute.
* `ConfigError`, `ConfigError.message`: the errors and their wording.
* `Configuration.ofYaml?`: the configuration that a YAML document is.
* `Settings.load`: the settings of a file.
* `Settings.find`: the configuration file of a directory.
* `Settings.ofDirectory`: the settings that hold in a working directory.
-/

namespace SqlFrontEnd

/-- What the libraries contribute that read YAML texts and validate configurations. -/
structure Libraries where
  /-- What is told of a text that is not well-formed. -/
  malformed : List Char → String
  /-- What is told of the faults of a configuration, behind their number. -/
  invalid : Configuration → List FaultDetail → String
  /-- How running out of stack on a text is reported, if that happens. -/
  exhausted? : List Char → Option String

/-- What is wrong with a configuration file, with what the libraries tell of it. -/
inductive ConfigError where
  | notFound (path : Path)
  | unreadable (path : Path) (error : FileError)
  | malformed (path : Path) (account : String)
  | notAMapping (path : Path)
  | invalid (path : Path) (details : List FaultDetail) (account : String)
deriving DecidableEq, Repr

namespace ConfigError

/-- The report of an error. -/
def message : ConfigError → String
  | notFound path => "Config file not found: " ++ path.toString
  | unreadable path error =>
    "Cannot read config file '" ++ path.toString ++ "': " ++ error.message path
  | malformed path account => "Invalid YAML in config file '" ++ path.toString ++ "': " ++ account
  | notAMapping path => path.toString ++ ": configuration must be a YAML mapping"
  | invalid path details account =>
    "Invalid config file '" ++ path.toString ++ "': " ++ Decimal.text details.length ++
      (if details.length = 1 then " validation error" else " validation errors") ++
      " for AppConfig\n" ++ account

end ConfigError

/-- Why a configuration file gives no settings. -/
inductive LoadError where
  | config (error : ConfigError)
  | failure (cause : Failure)
deriving DecidableEq, Repr

/-! ## YAML documents as configurations -/

namespace DatumKey

/-- The most decimal digits with which an integer is shown. -/
def maxShownDigits : Nat := 4300

/-- An integer that is shown. -/
def ofLargeInt (i : Int) : DatumKey :=
  if i.natAbs < Nat.pow 10 maxShownDigits then shown (Decimal.integerText i)
  else shown "<unprintable int object>"

/-- The key that a YAML value is. -/
def ofYaml : Yaml.Value → DatumKey
  | .text s => name s
  | .bool b => index (if b then 1 else 0)
  | .int i => if Settings.isInt64 i then index i else ofLargeInt i
  | .real x => shown x.shortest
  | .nan _ => shown Binary64.nan.shortest
  | .null => shown "None"
  | .octets bs => shown ("b" ++ Text.quotedOctets bs)
  | .timestamp t => shown t.shown
  | .collection => shown ""

end DatumKey

namespace Datum

/-- The datum that a YAML value is. -/
def ofYaml : Yaml.Value → Datum
  | .bool b => bool b
  | .int i => int i
  | .real x => real x
  | .nan _ => real .nan
  | .text s => text s
  | .octets bs => octets bs
  | .null | .timestamp _ | .collection => other

end Datum

namespace Configuration

/-- The configuration that a YAML document is: a mapping, where nothing counts as an empty one. -/
def ofYaml? : Yaml.Document → Option Configuration
  | .value .null => some (mapping [])
  | .value _ => none
  | .mapping entries => some (mapping (entries.map fun e => (.ofYaml e.1, .ofYaml e.2)))

end Configuration

namespace Settings

/-- The settings that the text of a configuration file gives. -/
def ofText (libraries : Libraries) (path : Path) (text : List Char) : Except LoadError Settings :=
  match libraries.exhausted? text with
  | some wording => .error (.failure (.exhausted wording))
  | none =>
    match Yaml.Document.read text with
    | .error .malformed => .error (.config (.malformed path (libraries.malformed text)))
    | .error (.scalar fault) => .error (.failure (.scalar fault))
    | .ok document =>
      match Configuration.ofYaml? document with
      | none => .error (.config (.notAMapping path))
      | some configuration =>
        match validate configuration with
        | .ok settings => .ok settings
        | .error details =>
          .error (.config (.invalid path details (libraries.invalid configuration details)))

/-- The settings that the octets of a configuration file give. -/
def ofOctets (libraries : Libraries) (path : Path) (octets : List UInt8) :
    Except LoadError Settings :=
  match Text.Utf8.decode octets with
  | .error part => .error (.failure (.undecodable part))
  | .ok text => ofText libraries path (Text.unifyNewlines text)

/-- The settings of a configuration file. -/
def load (libraries : Libraries) (files : FileSystem) (path : Path) : Except LoadError Settings :=
  if path.hasNull then .error (.failure .nullInPath)
  else
    match files.content path with
    | .ok octets => ofOctets libraries path octets
    | .error error =>
      .error (.config (if error.number = FileError.notFound.number then .notFound path
        else .unreadable path error))

/-- The configuration file of a directory, if it has one. -/
def find (files : FileSystem) (directory : Path) : Except Failure (Option Path) :=
  let path := directory.child fileName
  match files.isFile path with
  | .error error => .error (.file error path)
  | .ok true => .ok (some path)
  | .ok false => .ok none

/-- The settings that hold in a working directory: those of its configuration file, if it has
one. -/
def ofDirectory (libraries : Libraries) (files : FileSystem) (directory : Path) :
    Except LoadError Settings :=
  match find files directory with
  | .error cause => .error (.failure cause)
  | .ok none => .ok default
  | .ok (some path) => load libraries files path

end Settings

end SqlFrontEnd
