import SqlFrontEnd.Arguments.Occurrence

/-!
# Grammars of command lines

A program, or one of its commands, says which options and operands it takes and what each of them
does to a request.  Reading a command line gives the request and the words that are left over, or a
reason to stop: the user asked for help, or something is wrong.

* `Manual`: how a program describes itself.
* `Stop`, `Stop.output`, `Stop.errors`, `Stop.exit`: the reasons to stop, and what is told then.
* `Grammar`, `Grammar.read`: what a program takes, and reading a command line.
-/

namespace SqlFrontEnd.Arguments

/-- How a program describes itself. -/
structure Manual where
  program : String
  usage : List String
  description : List String
deriving DecidableEq, Repr

namespace Manual

/-- Lines of text, each with its end. -/
def lines (texts : List String) : String := String.join (texts.map (· ++ "\n"))

/-- The usage and, after a blank line, the description. -/
def help (manual : Manual) : String := lines (manual.usage ++ "" :: manual.description)

end Manual

/-- Why a program stops before it starts. -/
inductive Stop where
  | help (manual : Manual)
  | fault (manual : Manual) (cause : ArgumentFault)
deriving DecidableEq, Repr

namespace Stop

/-- What is told on standard output. -/
def output : Stop → String
  | help manual => manual.help
  | fault _ _ => ""

/-- What is told on standard error. -/
def errors : Stop → String
  | help _ => ""
  | fault manual cause =>
    Manual.lines (manual.usage ++ [manual.program ++ ": error: " ++ cause.message])

/-- The exit status. -/
def exit : Stop → Nat
  | help _ => 0
  | fault _ _ => 2

end Stop

/-- The value of an option that has to be one of a list of names. -/
def Manual.choice {α : Type} (manual : Manual) (name : String) (choices : List String)
    (ofName? : String → Option α) (value : String) : Except Stop α :=
  match ofName? value with
  | some a => .ok a
  | none => .error (.fault manual (.notAChoice name value choices))

/-- What a program takes, and what each part does to a request. -/
structure Grammar (ι ρ : Type) where
  forms : List (OptionForm ι)
  operands : Operands
  switch : ι → ρ → Except Stop ρ
  valued : ι → String → ρ → Except Stop ρ
  operand : List String → ρ → Except Stop ρ
  manual : Manual

namespace Grammar

variable {ι ρ : Type}

/-- What occurrences make of a request, and the words that are left over. -/
def apply (g : Grammar ι ρ) : ρ → List (Occurrence ι) → Except Stop (ρ × List String)
  | request, [] => .ok (request, [])
  | request, .surplus word :: rest =>
    (g.apply request rest).map fun result => (result.1, word :: result.2)
  | _, .fault cause :: _ => .error (.fault g.manual cause)
  | request, .switch key :: rest => g.switch key request >>= (g.apply · rest)
  | request, .valued key value :: rest => g.valued key value request >>= (g.apply · rest)
  | request, .operands words :: rest => g.operand words request >>= (g.apply · rest)

/-- The request of a command line, and the words that are left over. -/
def read (g : Grammar ι ρ) (request : ρ) (words : List String) :
    Except Stop (ρ × List String) :=
  match items g.forms words with
  | .error cause => .error (.fault g.manual cause)
  | .ok found => g.apply request (occurrences g.forms g.operands found)

/-- The request of a command line from which no word is left over. -/
def readAll (g : Grammar ι ρ) (request : ρ) (words : List String) : Except Stop ρ :=
  match g.read request words with
  | .error stop => .error stop
  | .ok (request, []) => .ok request
  | .ok (_, surplus) => .error (.fault g.manual (.unrecognized surplus))

end Grammar

end SqlFrontEnd.Arguments
