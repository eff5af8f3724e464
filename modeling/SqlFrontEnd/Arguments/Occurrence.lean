import SqlFrontEnd.Arguments.Role

/-!
# Reading a command line

The words of a command line, with their roles, are a sequence of occurrences: options with or
without a value, operands, and words that are left over.  The sequence ends early at a fault of an
option, so that whoever goes through it meets the faults of values before it first.

* `Operands`: how many operands a command line has room for.
* `Occurrence`: an occurrence.
* `occurrences`: the occurrences of a command line.
-/

namespace SqlFrontEnd.Arguments

/-- The operands that a command line has room for. -/
inductive Operands where
  | none
  /-- At most one.  A separator beside it counts for nothing. -/
  | one
  /-- The first operand and everything behind it, as one group. -/
  | group
deriving DecidableEq, Repr

/-- What a command line holds. -/
inductive Occurrence (ι : Type) where
  | switch (key : ι)
  | valued (key : ι) (value : String)
  | operands (words : List String)
  /-- A word for which there is no room. -/
  | surplus (word : String)
  | fault (fault : ArgumentFault)
deriving Repr

variable {ι : Type}

/-- The one-letter options of a run that starts with `form` and goes on with a text.  From the first
letter that is no option on, the text is taken for a value that nobody asked for. -/
def letterRun (forms : List (OptionForm ι)) (form : OptionForm ι) :
    List Char → Except ArgumentFault (List (Occurrence ι))
  | [] => .ok [.switch form.key]
  | letter :: text =>
    match optionOf? forms ['-', letter] with
    | none => .error (.unexpectedValue form.name (String.ofList (letter :: text)))
    | some next => (letterRun forms next text).map (.switch form.key :: ·)

/-- The occurrences of an option and of what stands in one word with it. -/
def attachedOccurrences (forms : List (OptionForm ι)) (form : OptionForm ι) :
    Attached → List (Occurrence ι)
  | .nothing => [.switch form.key]
  | .value text =>
    if form.takesValue then [.valued form.key (String.ofList text)]
    else [.fault (.unexpectedValue form.name (String.ofList text))]
  | .letters [] => [.fault (.unexpectedValue form.name "")]
  | .letters text =>
    match letterRun forms form text with
    | .ok found => found
    | .error fault => [.fault fault]

/-- The occurrences of a command line that has room for the given operands. -/
def occurrences (forms : List (OptionForm ι)) : Operands → List (Item ι) → List (Occurrence ι)
  | _, [] => []
  | room, ⟨word, .unknown⟩ :: rest => .surplus word :: occurrences forms room rest
  | room, ⟨_, .option form attached⟩ :: rest =>
    if form.takesValue && attached == .nothing then
      match rest with
      | ⟨value, .operand⟩ :: rest => .valued form.key value :: occurrences forms room rest
      | _ => [.fault (.missingValue form.name)]
    else attachedOccurrences forms form attached ++ occurrences forms room rest
  | .none, ⟨word, _⟩ :: rest => .surplus word :: occurrences forms .none rest
  | .one, ⟨_, .separator⟩ :: rest => occurrences forms .one rest
  | .one, ⟨word, .operand⟩ :: ⟨_, .separator⟩ :: rest =>
    .operands [word] :: occurrences forms .none rest
  | .one, ⟨word, .operand⟩ :: rest => .operands [word] :: occurrences forms .none rest
  | .group, [⟨word, .separator⟩] => [.surplus word]
  | .group, ⟨word, _⟩ :: rest => [.operands (word :: rest.map (·.word))]

end SqlFrontEnd.Arguments
