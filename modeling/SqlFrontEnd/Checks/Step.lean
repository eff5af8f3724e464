/-!
# Steps of the checks

A change is checked in five steps, each of which is one command to run.

* `Step`: the steps, and `Step.all` in the order in which they run.
* `Step.name`, `Step.title`, `Step.command`: how a step is called, announced and run.
-/

namespace SqlFrontEnd.Checks

/-- A step of the checks. -/
inductive Step where
  | format | lint | types | tests | build
deriving DecidableEq, Repr

namespace Step

/-- Every step, in the order in which they run. -/
def all : List Step := [format, lint, types, tests, build]

/-- The name of a step. -/
def name : Step → String
  | format => "format"
  | lint => "lint"
  | types => "types"
  | tests => "tests"
  | build => "build"

/-- The name of a step as a title. -/
def title : Step → String
  | format => "Format"
  | lint => "Lint"
  | types => "Types"
  | tests => "Tests"
  | build => "Build"

/-- The step of a given name. -/
def ofName? (name : String) : Option Step := all.find? (·.name == name)

/-- The words of the command of a step. -/
def command : Step → List String
  | format => ["uv", "run", "ruff", "format", "--check", "src/", "tests/", "tools/"]
  | lint => ["uv", "run", "ruff", "check", "src/", "tests/", "tools/"]
  | types => ["uv", "run", "ty", "check", "src/"]
  | tests => ["uv", "run", "pytest", "--cov=sqlcompiler", "--cov-report=term-missing"]
  | build => ["uv", "build"]

end Step

end SqlFrontEnd.Checks
