import SqlFrontEnd.CommandLine.Invocation
import SqlFrontEnd.CommandLine.Report
import SqlFrontEnd.Lexing.Source
import SqlFrontEnd.Text.Blank
import SqlFrontEnd.Token.Line
import SqlFrontEnd.Token.Record

/-!
# Running the program

A run reads its command line, then its settings, then does what was asked.  It depends on nothing
but its words and its surroundings.

* `StandardInput`, `Surroundings`: the files, the working directory, standard input, and the
  libraries.
* `sourceOf`: the source that a request names.
* `tokenizeReport`, `serveReport`: what the two commands report.  Output is written under the same
  policy under which standard input is read, so that a source can be printed if it could be read.
* `run`: a run.
-/

namespace SqlFrontEnd.CommandLine

/-- Standard input, and how it is read. -/
structure StandardInput where
  octets : Except FileError (List UInt8)
  policy : Text.StreamPolicy
  /-- Whether every line is made to end with a line feed. -/
  unifies : Bool

/-- What a run finds around it. -/
structure Surroundings where
  files : FileSystem
  directory : Path
  input : StandardInput
  libraries : Libraries

/-- What keeps a command from its work: something that it reports, or something that ends the
run. -/
inductive Obstacle where
  | complaint (complaint : Complaint)
  | failure (cause : Failure)
deriving DecidableEq, Repr

/-- The settings of a run: those of the configuration file that was named, else those of the working
directory. -/
def settingsOf (around : Surroundings) : Option Path → Except LoadError Settings
  | some path => Settings.load around.libraries around.files path
  | none => Settings.ofDirectory around.libraries around.files around.directory

/-! ## Sources -/

/-- The source on standard input. -/
def inputSource (input : StandardInput) : Except Obstacle Text :=
  match input.octets with
  | .error error => .error (.complaint (.unreadableInput error))
  | .ok octets =>
    match input.policy.decode octets with
    | .error part => .error (.complaint (.undecodableInput part))
    | .ok text => .ok (if input.unifies then Text.unifyBreaks text else text)

/-- The source in a file. -/
def fileSource (files : FileSystem) (path : Path) : Except Obstacle Text :=
  match files.isFile path with
  | .error error => .error (.failure (.file error path))
  | .ok false => .error (.complaint (.noSuchFile path))
  | .ok true =>
    match files.content path with
    | .error error => .error (.complaint (.unreadableFile path error))
    | .ok octets =>
      match Text.Utf8.decode octets with
      | .error part => .error (.complaint (.undecodableFile path part))
      | .ok text => .ok (Text.ofChars (Text.unifyNewlines text))

/-- The source that a request names.  It holds more than blanks. -/
def sourceOf (around : Surroundings) (file : String) : Except Obstacle Text :=
  let found := if file = standardInput then inputSource around.input
    else fileSource around.files (Path.ofString file)
  match found with
  | .error obstacle => .error obstacle
  | .ok source =>
    if Text.isBlankText source then .error (.complaint .blankSource) else .ok source

/-! ## Commands -/

/-- Tokens as they are printed: a line for each, or one array of records.  The places in a source
have few enough digits to be written. -/
def printed (json : Bool) (tokens : List Token) : Text :=
  if json then Text.ofString ((records tokens).render (.indented 2) ++ "\n")
  else tokens.flatMap (·.shown ++ [.char '\n'])

/-- What the command that prints tokens reports of a source. -/
def tokenizeReport (level : LogLevel) (policy : KeywordCase) (json : Bool) (source : Text) :
    Report :=
  let tokens := tokenize policy source
  { exit := if hasErrors tokens then 1 else 0
    output := printed json tokens
    log := [tokenizeLog source tokens].filter (·.passes level)
    level := level }

/-- Runs the command that prints tokens. -/
def runTokenize (around : Surroundings) (settings : Settings) (level : LogLevel)
    (request : TokenizeRequest) : Except Failure Report :=
  match sourceOf around request.file with
  | .error (.failure cause) => .error cause
  | .error (.complaint complaint) => .ok (.ofComplaint level complaint)
  | .ok source =>
    let policy := request.keywordCase.getD settings.keywordCase
    .ok (tokenizeReport level policy request.json source)

/-- What the command that serves the web page reports. -/
def serveReport (settings : Settings) (level : LogLevel) (request : ServeRequest) : Report :=
  let host := (request.host.map Text.ofString).getD settings.host
  let port := request.port.getD settings.port
  { exit := 0
    output := Text.ofString "Serving lexer UI at http://" ++ host ++
      Text.ofString (":" ++ Decimal.integerText port ++ "/\n")
    level := level
    served := some ⟨host, port, settings.debug, settings.keywordCase⟩ }

/-- Runs the command that serves the web page.  It tells first what it serves; a host with half a
surrogate pair may be more than the output takes. -/
def runServe (around : Surroundings) (settings : Settings) (level : LogLevel)
    (request : ServeRequest) : Except Failure Report :=
  let report := serveReport settings level request
  match around.input.policy.unencodable? report.output with
  | some part => .error (.unprintable part)
  | none => .ok report

/-- Runs what was asked for. -/
def Invocation.run (invocation : Invocation) (around : Surroundings) : Except Failure Report :=
  match settingsOf around invocation.request.config with
  | .error (.failure cause) => .error cause
  | .error (.config error) => .ok (.ofComplaint .warning (.config error))
  | .ok settings =>
    let level := invocation.logLevel.getD settings.logLevel
    match invocation.request with
    | .tokenize request => runTokenize around settings level request
    | .serve request => runServe around settings level request

/-- A run of the program. -/
def run (words : List String) (around : Surroundings) : Except Failure Report :=
  match Invocation.ofWords words with
  | .error stop => .ok (.ofStop stop)
  | .ok invocation => invocation.run around

end SqlFrontEnd.CommandLine
