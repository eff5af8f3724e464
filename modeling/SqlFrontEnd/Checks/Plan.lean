import SqlFrontEnd.Arguments.Grammar
import SqlFrontEnd.Checks.Step

/-!
# Plans

What the command line of the checks asks for: which steps to skip, and whether to stop at the first
that fails.

* `Plan`: what is asked for.
* `Plan.ofWords`: the plan of a command line.
-/

namespace SqlFrontEnd.Checks

open Arguments

/-- Which checks to run. -/
structure Plan where
  skipped : List Step := []
  /-- Stops at the first step that fails. -/
  failFast : Bool := false
deriving DecidableEq, Repr

/-- The manual of the checks. -/
def manual : Manual where
  program := "ci.py"
  usage := ["usage: ci.py [-h] [--skip \x7bformat,lint,types,tests,build\x7d] [--fail-fast]"]
  description := [
    "Run the SQL compiler CI checks locally.",
    "",
    "options:",
    "  -h, --help            show this help message and exit",
    "  --skip \x7bformat,lint,types,tests,build\x7d",
    "                        Step to skip (may be given more than once)",
    "  --fail-fast           Stop after the first failing step"]

/-- The options of the checks. -/
inductive CheckOption where
  | help | skip | failFast
deriving DecidableEq, Repr

/-- What the command line of the checks takes. -/
def grammar : Grammar CheckOption Plan where
  manual := manual
  forms := [
    ⟨.help, ["-h", "--help"], false⟩,
    ⟨.skip, ["--skip"], true⟩,
    ⟨.failFast, ["--fail-fast"], false⟩]
  operands := .none
  switch
    | .help, _ => .error (.help manual)
    | .failFast, plan => .ok { plan with failFast := true }
    | .skip, plan => .ok plan
  valued
    | .skip, value, plan =>
      (manual.choice "--skip" (Step.all.map (·.name)) Step.ofName? value).map fun step =>
        { plan with skipped := plan.skipped ++ [step] }
    | _, _, plan => .ok plan
  operand _ plan := .ok plan

/-- The plan of a command line. -/
def Plan.ofWords (words : List String) : Except Stop Plan := grammar.readAll {} words

end SqlFrontEnd.Checks
