import SqlFrontEnd.Arguments.Grammar

/-!
# How the program describes itself

The manuals of the program and of its two commands, set in lines of at most eighty columns.
-/

namespace SqlFrontEnd.CommandLine

open Arguments

/-- The manual of the program. -/
def programManual : Manual where
  program := "sqlcompiler"
  usage := [
    "usage: sqlcompiler [-h] [--log-level \x7bDEBUG,INFO,WARNING,ERROR,CRITICAL\x7d]",
    "                   COMMAND ..."]
  description := [
    "SQL compiler front end: lexical analysis of SQL-like code",
    "",
    "positional arguments:",
    "  COMMAND",
    "    tokenize            Print the tokens of a SQL-like source file",
    "    serve               Launch the interactive lexer web UI",
    "",
    "options:",
    "  -h, --help            show this help message and exit",
    "  --log-level \x7bDEBUG,INFO,WARNING,ERROR,CRITICAL\x7d",
    "                        Logging level (default: taken from the config file,",
    "                        else WARNING)"]

/-- The manual of the command that prints tokens. -/
def tokenizeManual : Manual where
  program := "sqlcompiler tokenize"
  usage := [
    "usage: sqlcompiler tokenize [-h] [--json]",
    "                            [--keyword-case \x7bsensitive,insensitive\x7d]",
    "                            [--config CONFIG]",
    "                            [file]"]
  description := [
    "Tokenize a SQL-like source file and print one token per line.",
    "",
    "positional arguments:",
    "  file                  Source file to tokenize, '-' reads from standard input",
    "                        (default: '-')",
    "",
    "options:",
    "  -h, --help            show this help message and exit",
    "  --json                Print the tokens as a JSON array of records",
    "  --keyword-case \x7bsensitive,insensitive\x7d",
    "                        Keyword matching policy (default: taken from the",
    "                        config file, else sensitive)",
    "  --config CONFIG       Path to a .sqlcompiler.yaml file (default: look in the",
    "                        current directory)"]

/-- The manual of the command that serves the web page. -/
def serveManual : Manual where
  program := "sqlcompiler serve"
  usage := [
    "usage: sqlcompiler serve [-h] [--port PORT] [--host HOST] [--config CONFIG]"]
  description := [
    "Launch a web UI and JSON endpoint for tokenizing SQL-like code.",
    "",
    "options:",
    "  -h, --help       show this help message and exit",
    "  --port PORT      Port to run the server on (default: from the config file,",
    "                   else 8050)",
    "  --host HOST      Host to bind the server to (default: from the config file,",
    "                   else 127.0.0.1)",
    "  --config CONFIG  Path to a .sqlcompiler.yaml file (default: look in the",
    "                   current directory)"]

end SqlFrontEnd.CommandLine
