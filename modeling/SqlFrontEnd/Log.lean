/-!
# Log levels and log lines

What the program tells about its work goes to a log.  A line has a level, the name of the part that
writes it, and a message; it is kept when its level is at least the level that is set.

* `LogLevel`: the five levels, from the least to the most severe.
* `LogLine`: a line.
* `LogLine.passes`: whether a line is kept.
* `LogLine.stamped`, `LogLine.brief`: a line as it stands in the log, and without time and origin.
-/

namespace SqlFrontEnd

/-- How severe a log line is. -/
inductive LogLevel where
  | debug | info | warning | error | critical
deriving DecidableEq, Repr

namespace LogLevel

/-- Every level, from the least severe on. -/
def all : List LogLevel := [debug, info, warning, error, critical]

/-- The name of a level. -/
def name : LogLevel → String
  | debug => "DEBUG"
  | info => "INFO"
  | warning => "WARNING"
  | error => "ERROR"
  | critical => "CRITICAL"

/-- The level of a given name. -/
def ofName? (name : String) : Option LogLevel := all.find? (·.name == name)

/-- How severe a level is, as a number. -/
def severity : LogLevel → Nat
  | debug => 10
  | info => 20
  | warning => 30
  | error => 40
  | critical => 50

end LogLevel

/-- A line of the log. -/
structure LogLine where
  level : LogLevel
  origin : String
  message : String
deriving DecidableEq, Repr

namespace LogLine

/-- Tests whether a line is kept at a level that is set. -/
def passes (threshold : LogLevel) (line : LogLine) : Bool :=
  decide (threshold.severity ≤ line.level.severity)

/-- A line without its time and origin. -/
def brief (line : LogLine) : String := line.level.name ++ " " ++ line.message

/-- A line as it stands in the log, with the time at which it was written. -/
def stamped (time : String) (line : LogLine) : String :=
  time ++ " " ++ line.level.name ++ " " ++ line.origin ++ ": " ++ line.message

end LogLine

end SqlFrontEnd
