import SqlFrontEnd.Text.Quoted

/-!
# Faults of a command line

* `ArgumentFault`: what is wrong with the words of a command line.
* `ArgumentFault.message`: its wording.
-/

namespace SqlFrontEnd

/-- What is wrong with a command line. -/
inductive ArgumentFault where
  /-- A shortened option stands for several. -/
  | ambiguous (word : String) (candidates : List String)
  /-- An option that needs a value has none. -/
  | missingValue (name : String)
  /-- An option that takes no value has one. -/
  | unexpectedValue (name value : String)
  /-- A value is not among those that are allowed. -/
  | notAChoice (name value : String) (choices : List String)
  /-- A value is no integer. -/
  | notAnInteger (name value : String)
  /-- Words are left over. -/
  | unrecognized (words : List String)
deriving DecidableEq, Repr

namespace ArgumentFault

/-- The wording of a fault. -/
def message : ArgumentFault → String
  | ambiguous word candidates =>
    "ambiguous option: " ++ word ++ " could match " ++ String.intercalate ", " candidates
  | missingValue name => "argument " ++ name ++ ": expected one argument"
  | unexpectedValue name value =>
    "argument " ++ name ++ ": ignored explicit argument " ++ Text.quoted value
  | notAChoice name value choices =>
    "argument " ++ name ++ ": invalid choice: " ++ Text.quoted value ++ " (choose from " ++
      String.intercalate ", " (choices.map fun (choice : String) => Text.quoted choice) ++ ")"
  | notAnInteger name value => "argument " ++ name ++ ": invalid int value: " ++ Text.quoted value
  | unrecognized words => "unrecognized arguments: " ++ String.intercalate " " words

end ArgumentFault

end SqlFrontEnd
