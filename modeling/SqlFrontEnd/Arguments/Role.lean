import SqlFrontEnd.Arguments.Fault
import SqlFrontEnd.Text.Digit

/-!
# The words of a command line

Before anything is done with a command line, each of its words is given a role.  A word that starts
with a dash is an option, unless it is a dash alone, looks like a negative number, or holds a space.
An option that starts with two dashes may be shortened as long as one option alone starts so, and a
value may follow it behind an equals sign.  An option of one dash is a run of one-letter options.
Two dashes alone make an operand of every word after them.

* `OptionForm`: an option that may be given.
* `roleOf`: the role of a word, or the fault of a shortening that could mean several options.
* `items`: the words of a command line with their roles.
-/

namespace SqlFrontEnd.Arguments

/-- An option that may be given.  An option of one letter takes no value. -/
structure OptionForm (ι : Type) where
  key : ι
  spellings : List String
  takesValue : Bool
deriving Repr

/-- An option as faults name it: by all its spellings. -/
def OptionForm.name {ι : Type} (form : OptionForm ι) : String :=
  String.intercalate "/" form.spellings

/-- What stands in one word with an option. -/
inductive Attached where
  | nothing
  /-- A text behind an equals sign. -/
  | value (text : List Char)
  /-- More letters behind a one-letter option; an equals sign may stand between. -/
  | letters (text : List Char)
deriving DecidableEq, Repr

/-- The role of a word. -/
inductive Role (ι : Type) where
  | operand
  /-- Two dashes alone. -/
  | separator
  /-- A word that looks like an option and is none. -/
  | unknown
  | option (form : OptionForm ι) (attached : Attached)
deriving Repr

variable {ι : Type}

/-- Every spelling with its option, in order. -/
def spelled (forms : List (OptionForm ι)) : List (List Char × OptionForm ι) :=
  forms.flatMap fun form => form.spellings.map (·.toList, form)

/-- The option of a given spelling. -/
def optionOf? (forms : List (OptionForm ι)) (spelling : List Char) : Option (OptionForm ι) :=
  ((spelled forms).find? (·.1 == spelling)).map (·.2)

/-- Tests for a word that looks like a negative number: a dash before digits of any script, with a
point or without.  A line end may follow. -/
def isNegativeNumber : List Char → Bool
  | '-' :: body =>
    let number := if body.getLast? == some '\n' then body.dropLast else body
    let isDecimal (c : Char) : Bool := (Text.decimalValue? c).isSome
    match number.dropWhile isDecimal with
    | [] => !number.isEmpty
    | '.' :: fraction => !fraction.isEmpty && fraction.all isDecimal
    | _ => false
  | _ => false

/-- Tests for a word that starts with two dashes. -/
def isLong : List Char → Bool
  | '-' :: '-' :: _ => true
  | _ => false

/-- A word at its first equals sign: what stands before it, and what behind it if there is one.
Behind an option of one dash these are letters. -/
def atEquals (word : List Char) : List Char × Attached :=
  match word.dropWhile (· != '=') with
  | _ :: text =>
    (word.takeWhile (· != '='), if isLong word then .value text else .letters text)
  | [] => (word, .nothing)

/-- The options that a word which is no spelling may stand for, each with its spelling. -/
def candidates (forms : List (OptionForm ι)) (word : List Char) :
    List (List Char × OptionForm ι × Attached) :=
  if isLong word then
    ((spelled forms).filter ((atEquals word).1.isPrefixOf ·.1)).map
      fun s => (s.1, s.2, (atEquals word).2)
  else
    ((spelled forms).filter (·.1 == word.take 2)).map
      fun s => (s.1, s.2, .letters (word.drop 2))

/-- The role of a word that starts with a dash and holds more. -/
def dashedRole (forms : List (OptionForm ι)) (word : String) : Except ArgumentFault (Role ι) :=
  match optionOf? forms word.toList, optionOf? forms (atEquals word.toList).1 with
  | some form, _ => .ok (.option form .nothing)
  | none, some form => .ok (.option form (atEquals word.toList).2)
  | none, none =>
    match candidates forms word.toList with
    | [(_, form, attached)] => .ok (.option form attached)
    | [] =>
      if isNegativeNumber word.toList || word.toList.contains ' ' then .ok .operand
      else .ok .unknown
    | several => .error (.ambiguous word (several.map fun s => String.ofList s.1))

/-- The role of a word before the separator. -/
def roleOf (forms : List (OptionForm ι)) (word : String) : Except ArgumentFault (Role ι) :=
  match word.toList with
  | '-' :: _ :: _ => dashedRole forms word
  | _ => .ok .operand

/-- A word of a command line with its role. -/
structure Item (ι : Type) where
  word : String
  role : Role ι
deriving Repr

/-- The words of a command line with their roles. -/
def items (forms : List (OptionForm ι)) : List String → Except ArgumentFault (List (Item ι))
  | [] => .ok []
  | word :: words =>
    if word = "--" then .ok (⟨word, .separator⟩ :: words.map (⟨·, .operand⟩))
    else
      match roleOf forms word with
      | .error fault => .error fault
      | .ok role => (items forms words).map (⟨word, role⟩ :: ·)

end SqlFrontEnd.Arguments
