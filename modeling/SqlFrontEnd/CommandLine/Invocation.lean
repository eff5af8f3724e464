import SqlFrontEnd.Arguments.Grammar
import SqlFrontEnd.CommandLine.Manuals
import SqlFrontEnd.CommandLine.Request
import SqlFrontEnd.Number.Literal
import SqlFrontEnd.Settings.Basic

/-!
# The command line of the program

The options of the program come first, then a command, and what follows is the command's own.  Words
that neither has room for are reported together, those of the program first, once all else is in
order.  A command line without a command asks for help.

* `tokenizeGrammar`, `serveGrammar`, `programGrammar`: what is taken where.
* `Invocation.ofWords`: what a command line asks for.
-/

namespace SqlFrontEnd.CommandLine

open Arguments

/-! ## Printing tokens -/

/-- The options of the command that prints tokens. -/
inductive TokenizeOption where
  | help | json | keywordCase | config
deriving DecidableEq, Repr

/-- What the command that prints tokens takes. -/
def tokenizeGrammar : Grammar TokenizeOption TokenizeRequest where
  manual := tokenizeManual
  forms := [
    ⟨.help, ["-h", "--help"], false⟩,
    ⟨.json, ["--json"], false⟩,
    ⟨.keywordCase, ["--keyword-case"], true⟩,
    ⟨.config, ["--config"], true⟩]
  operands := .one
  switch
    | .help, _ => .error (.help tokenizeManual)
    | .json, request => .ok { request with json := true }
    | _, request => .ok request
  valued
    | .keywordCase, value, request =>
      (tokenizeManual.choice "--keyword-case" (KeywordCase.all.map (·.name)) KeywordCase.ofName?
        value).map fun policy => { request with keywordCase := some policy }
    | .config, value, request => .ok { request with config := some (Path.ofString value) }
    | _, _, request => .ok request
  operand words request := .ok { request with file := words.headD standardInput }

/-! ## Serving the web page -/

/-- The options of the command that serves the web page. -/
inductive ServeOption where
  | help | port | host | config
deriving DecidableEq, Repr

/-- What the command that serves the web page takes. -/
def serveGrammar : Grammar ServeOption ServeRequest where
  manual := serveManual
  forms := [
    ⟨.help, ["-h", "--help"], false⟩,
    ⟨.port, ["--port"], true⟩,
    ⟨.host, ["--host"], true⟩,
    ⟨.config, ["--config"], true⟩]
  operands := .none
  switch
    | .help, _ => .error (.help serveManual)
    | _, request => .ok request
  valued
    | .port, value, request =>
      match Literal.integer 10 value.toList with
      | .ok port => .ok { request with port := some port }
      | .error _ => .error (.fault serveManual (.notAnInteger "--port" value))
    | .host, value, request => .ok { request with host := some value }
    | .config, value, request => .ok { request with config := some (Path.ofString value) }
    | _, _, request => .ok request
  operand _ request := .ok request

/-! ## The program -/

/-- The options of the program. -/
inductive ProgramOption where
  | help | logLevel
deriving DecidableEq, Repr

/-- What has been read of a command line. -/
structure Progress where
  logLevel : Option LogLevel := none
  request : Option Request := none
  /-- The words that the command had no room for. -/
  surplus : List String := []
deriving DecidableEq, Repr

/-- The names of the commands. -/
def commandNames : List String := ["tokenize", "serve"]

/-- What a command makes of the words behind its name, and those that it has no room for. -/
def readCommand (name : String) (words : List String) : Except Stop (Request × List String) :=
  match name with
  | "tokenize" => (tokenizeGrammar.read {} words).map fun r => (.tokenize r.1, r.2)
  | "serve" => (serveGrammar.read {} words).map fun r => (.serve r.1, r.2)
  | _ => .error (.fault programManual (.notAChoice "COMMAND" name commandNames))

/-- What the program takes. -/
def programGrammar : Grammar ProgramOption Progress where
  manual := programManual
  forms := [
    ⟨.help, ["-h", "--help"], false⟩,
    ⟨.logLevel, ["--log-level"], true⟩]
  operands := .group
  switch
    | .help, _ => .error (.help programManual)
    | _, progress => .ok progress
  valued
    | .logLevel, value, progress =>
      (programManual.choice "--log-level" (LogLevel.all.map (·.name)) LogLevel.ofName? value).map
        fun level => { progress with logLevel := some level }
    | _, _, progress => .ok progress
  operand
    | name :: words, progress =>
      (readCommand name words).map fun r =>
        { progress with request := some r.1, surplus := r.2 }
    | [], progress => .ok progress

/-- What a command line asks for. -/
def Invocation.ofWords (words : List String) : Except Stop Invocation :=
  match programGrammar.read {} words with
  | .error stop => .error stop
  | .ok (progress, surplus) =>
    match surplus ++ progress.surplus, progress.request with
    | [], some request => .ok ⟨progress.logLevel, request⟩
    | [], none => .error (.help programManual)
    | left, _ => .error (.fault programManual (.unrecognized left))

end SqlFrontEnd.CommandLine
