import SqlFrontEnd.Files.Path
import SqlFrontEnd.Settings.Basic

/-!
# Requests

What a command line asks for: the tokens of a source, or the web page.

* `TokenizeRequest`, `ServeRequest`: what the two commands can be told.
* `Request`: a command.
* `Invocation`: a command with the log level that was asked for.
* `Invocation.paths`, `Invocation.readsInput`: what a run of it may read.
-/

namespace SqlFrontEnd.CommandLine

/-- The file name that stands for standard input. -/
def standardInput : String := "-"

/-- What to print the tokens of, and how. -/
structure TokenizeRequest where
  file : String := standardInput
  /-- Prints records instead of lines. -/
  json : Bool := false
  keywordCase : Option KeywordCase := none
  config : Option Path := none
deriving DecidableEq, Repr

/-- Where to serve the web page. -/
structure ServeRequest where
  port : Option Int := none
  host : Option String := none
  config : Option Path := none
deriving DecidableEq, Repr

/-- A command. -/
inductive Request where
  | tokenize (request : TokenizeRequest)
  | serve (request : ServeRequest)
deriving DecidableEq, Repr

/-- The configuration file that a command names. -/
def Request.config : Request → Option Path
  | tokenize request => request.config
  | serve request => request.config

/-- A command with the log level that was asked for. -/
structure Invocation where
  logLevel : Option LogLevel
  request : Request
deriving DecidableEq, Repr

namespace Invocation

/-- The file that holds the source, if it is in one. -/
def sourcePath? (invocation : Invocation) : Option Path :=
  match invocation.request with
  | .tokenize request =>
    if request.file = standardInput then none else some (Path.ofString request.file)
  | .serve _ => none

/-- The files that a run in a working directory may read: the configuration, and the source if it
is in a file. -/
def paths (invocation : Invocation) (directory : Path) : List Path :=
  invocation.request.config.getD (directory.child Settings.fileName) ::
    invocation.sourcePath?.toList

/-- Tests for a run that may read standard input. -/
def readsInput (invocation : Invocation) : Bool :=
  match invocation.request with
  | .tokenize request => request.file == standardInput
  | .serve _ => false

end Invocation

end SqlFrontEnd.CommandLine
