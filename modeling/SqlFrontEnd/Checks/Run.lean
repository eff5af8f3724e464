import SqlFrontEnd.Checks.Plan
import SqlFrontEnd.Number.Binary64

/-!
# Running the checks

The steps run in order, each announced by a banner, and a summary tells which have passed and how
long each took.  The checks pass if every step that ran has passed.

* `Result`: the outcome of a step.
* `Plan.results`: the outcomes of the steps that run.
* `Report`, `run`: a run of the checks.
-/

namespace SqlFrontEnd.Checks

/-- How the command of a step ended: its status, and the seconds that it took. -/
structure Ending where
  status : Int
  seconds : Binary64
deriving Repr

/-- The outcome of a step. -/
structure Result where
  step : Step
  passed : Bool
  seconds : Binary64
deriving Repr

/-- The outcome of a step whose command ends in a given way. -/
def Result.ofEnding (step : Step) (ending : Ending) : Result :=
  ⟨step, ending.status == 0, ending.seconds⟩

/-- Results through the first that has not passed. -/
def throughFailure : List Result → List Result
  | [] => []
  | result :: rest => if result.passed then result :: throughFailure rest else [result]

/-- The outcomes of the steps that run under a plan. -/
def Plan.results (plan : Plan) (endings : Step → Ending) : List Result :=
  let results := (Step.all.filter (!plan.skipped.contains ·)).map fun step =>
    Result.ofEnding step (endings step)
  if plan.failFast then throughFailure results else results

/-! ## Output -/

/-- The colours of the output. -/
inductive Colour where
  | red | green | blue
deriving DecidableEq, Repr

/-- The number of a colour in a terminal. -/
def Colour.number : Colour → Nat
  | red => 31
  | green => 32
  | blue => 34

/-- A text in a colour. -/
def Colour.paint (colour : Colour) (text : String) : String :=
  "\x1b[" ++ Decimal.text colour.number ++ "m" ++ text ++ "\x1b[39m"

/-- A title between two rules, after a blank line. -/
def banner (title : String) : String :=
  let rule := String.ofList (List.replicate 60 '=')
  "\n" ++ String.join ([rule, title, rule].map (Colour.blue.paint · ++ "\n"))

/-- The line of a result in the summary. -/
def Result.line (result : Result) : String :=
  let colour := if result.passed then Colour.green else Colour.red
  let verdict := if result.passed then "PASS" else "FAIL"
  colour.paint ("  " ++ verdict ++ "  " ++ result.step.name ++ " (" ++ result.seconds.fixed 1 ++
    "s)") ++ "\n"

/-- The outcome of a run. -/
structure Report where
  exit : Nat
  output : String
  errors : String := ""
  /-- The steps whose commands were started. -/
  started : List Step := []
deriving Repr

/-- What is reported of results. -/
def Report.ofResults (results : List Result) : Report where
  exit := if results.all (·.passed) then 0 else 1
  output := String.join (results.map fun result => banner result.step.title) ++
    banner "  Summary" ++ String.join (results.map Result.line) ++ "\n"
  started := results.map (·.step)

/-- A run of the checks, in which the command of each step ends in a given way. -/
def run (words : List String) (endings : Step → Ending) : Report :=
  match Plan.ofWords words with
  | .error stop => { exit := stop.exit, output := stop.output, errors := stop.errors }
  | .ok plan => .ofResults (plan.results endings)

end SqlFrontEnd.Checks
