import SqlFrontEnd.Number.Binary64
import SqlFrontEnd.Text.CodePoint

/-!
# JSON values

The values of the data format in which tokens are exchanged.  A number without fraction and exponent
is an integer of any size; every other number is a binary floating-point datum.  The members of an
object keep the order in which they were first written.

* `Json`: the values.
* `Json.field?`: the member of an object with a given name.
* `Json.insert`: sets a member; a name that is already there keeps its position.
-/

namespace SqlFrontEnd

/-- A JSON value. -/
inductive Json where
  | null
  | bool (b : Bool)
  | int (i : Int)
  | real (x : Binary64)
  | string (s : Text)
  | array (items : List Json)
  | object (fields : List (Text × Json))
deriving Repr, Inhabited

namespace Json

/-- The most digits of an integer that is written, or read of what somebody else has sent. -/
def maxDigits : Nat := 4300

/-- Sets a member of an object.  A new name comes last. -/
def insert (fields : List (Text × Json)) (name : Text) (value : Json) :
    List (Text × Json) :=
  match fields with
  | [] => [(name, value)]
  | (other, old) :: rest =>
    if other = name then (name, value) :: rest else (other, old) :: insert rest name value

/-- The object that a sequence of members writes: of members with one name, the last counts. -/
def ofMembers (members : List (Text × Json)) : Json :=
  object (members.foldl (fun fields m => insert fields m.1 m.2) [])

/-- The member of an object with a given name; a value that is no object has none. -/
def field? (name : Text) : Json → Option Json
  | object fields => fields.lookup name
  | _ => none

end Json

end SqlFrontEnd
