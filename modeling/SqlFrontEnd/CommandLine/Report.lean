import SqlFrontEnd.Arguments.Grammar
import SqlFrontEnd.Log
import SqlFrontEnd.Settings.File

/-!
# What a run reports

* `Complaint`, `Complaint.message`: why a command did not do its work.
* `Service`: what is handed over to be served.
* `Report`: the outcome of a run.
* `Report.ofComplaint`, `Report.ofStop`: the outcomes of runs that did not get to their work.
-/

namespace SqlFrontEnd.CommandLine

/-- Why a command did not do its work. -/
inductive Complaint where
  | config (error : ConfigError)
  | unreadableInput (error : FileError)
  | undecodableInput (part : Text.Utf8.Malformed)
  | noSuchFile (path : Path)
  | unreadableFile (path : Path) (error : FileError)
  | undecodableFile (path : Path) (part : Text.Utf8.Malformed)
  | blankSource
deriving DecidableEq, Repr

namespace Complaint

/-- The wording of a complaint. -/
def message : Complaint → String
  | config error => error.message
  | unreadableInput error => "cannot read standard input: " ++ error.report
  | undecodableInput part => "cannot read standard input: " ++ part.message
  | noSuchFile path => "file '" ++ path.toString ++ "' does not exist."
  | unreadableFile path error => "cannot read '" ++ path.toString ++ "': " ++ error.message path
  | undecodableFile path part => "cannot read '" ++ path.toString ++ "': " ++ part.message
  | blankSource => "please enter SQL-like code."

end Complaint

/-- What is handed over to be served. -/
structure Service where
  host : Text
  port : Int
  debug : Bool
  keywordCase : KeywordCase
deriving DecidableEq, Repr

/-- The outcome of a run. -/
structure Report where
  exit : Nat
  output : Text := []
  /-- What is told on standard error, the log apart. -/
  errors : String := ""
  /-- The lines that were kept for the log. -/
  log : List LogLine := []
  /-- The log level at the end. -/
  level : LogLevel := .warning
  served : Option Service := none
deriving DecidableEq, Repr

namespace Report

/-- The outcome of a run that ends with a complaint. -/
def ofComplaint (level : LogLevel) (complaint : Complaint) : Report where
  exit := 1
  errors := "Error: " ++ complaint.message ++ "\n"
  level := level

/-- The outcome of a run that stops at its command line. -/
def ofStop (stop : Arguments.Stop) : Report where
  exit := stop.exit
  output := stop.output
  errors := stop.errors

/-- All that stands on standard error, with the given time before each line of the log. -/
def standardError (time : String) (report : Report) : String :=
  String.join (report.log.map (·.stamped time ++ "\n")) ++ report.errors

end Report

end SqlFrontEnd.CommandLine
