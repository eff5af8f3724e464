import SqlFrontEnd.Number.Literal
import SqlFrontEnd.Text.Base64
import SqlFrontEnd.Text.Lower
import SqlFrontEnd.Yaml.Graph

/-!
# The values of nodes

Each node denotes a value according to its kind.  Two keys of a mapping that are equal are one key,
also where one is an integer and the other an equal number or switch.  What a collection holds is
not part of its value, since it is known only after the collection itself.

* `Value`: the values.
* `Value.ofNode`: the value of a node.
* `Value.sameKey`, `Value.canBeKey`: which keys are one, and which values can be a key.
-/

namespace SqlFrontEnd.Yaml

/-- A value. -/
inductive Value where
  | null
  | bool (b : Bool)
  | int (i : Int)
  /-- A number of the floating-point format, infinite ones among them. -/
  | real (x : Binary64)
  /-- What stands where no number can, and equals only itself: the one that has a sign of its own,
  or the one of a node. -/
  | nan (owner : Option NodeId)
  | text (s : Text)
  | octets (bs : List UInt8)
  | timestamp (t : Timestamp)
  | collection
deriving DecidableEq, Repr

namespace Value

/-! ## Texts as values -/

/-- A text without underscores. -/
def ungrouped (text : Text) : Text := text.filter (· != .char '_')

/-- A text without its sign, and whether the sign is a minus. -/
def signed : Text → Bool × Text
  | .char '-' :: s => (true, s)
  | .char '+' :: s => (false, s)
  | s => (false, s)

/-- An integer in a base. -/
def integerIn (base : Nat) (text : Text) : Except Fault Int :=
  match Literal.integer base text.toChars with
  | .ok i => .ok i
  | .error .malformed => .error (.scalar (.notAnInteger base text))
  | .error (.tooLong digits) => .error (.scalar (.tooManyDigits digits))

/-- An integer whose sign has been read. -/
def magnitude (text : Text) : Except Fault Int :=
  match text with
  | [] => .error (.scalar .noNumber)
  | [.char '0'] => .ok 0
  | .char '0' :: .char 'b' :: ds => integerIn 2 ds
  | .char '0' :: .char 'x' :: ds => integerIn 16 ds
  | .char '0' :: _ => integerIn 8 text
  | _ =>
    if text.contains (.char ':') then do
      let places ← (Text.splitAt (.char ':') text).mapM (integerIn 10)
      return places.foldl (fun n d => 60 * n + d) 0
    else integerIn 10 text

/-- The integer that a text denotes. -/
def readInt (text : Text) : Except Fault Int :=
  let (negative, s) := signed (ungrouped text)
  (magnitude s).map fun i => if negative then -i else i

/-- A floating-point number. -/
def realIn (text : Text) : Except Fault Binary64 :=
  match Literal.real? text.toChars with
  | some x => .ok x
  | none => .error (.scalar (.notANumber text))

/-- Adds the number of places to base sixty, the first of which has a given weight.  Each step is
rounded, and the weight of each place must be a number of the format. -/
def addPlaces (weight : Nat) (sum : Binary64) : List Binary64 → Except Fault Binary64
  | [] => .ok sum
  | x :: xs =>
    let w := Binary64.ofInt weight
    if w.isFinite then addPlaces (60 * weight) (sum.add (x.mul w)) xs
    else .error (.scalar .placeTooLarge)

/-- A floating-point number whose sign has been read. -/
def realMagnitude (text : Text) : Except Fault Binary64 :=
  if text == Text.ofString ".inf" then .ok (.infinite false)
  else if text.contains (.char ':') then do
    let places ← (Text.splitAt (.char ':') text).mapM realIn
    addPlaces 1 (.finite false 0) places.reverse
  else realIn text

/-- The floating-point number that the text of a node denotes. -/
def readReal (id : NodeId) (text : Text) : Except Fault Value :=
  let lower := Text.lower (ungrouped text)
  let (negative, s) := signed lower
  if lower.isEmpty then .error (.scalar .noNumber)
  else if s == Text.ofString ".nan" then .ok (nan none)
  else
    (realMagnitude s).map fun x =>
      match x with
      | .nan => nan (some id)
      | x => real (if negative then x.neg else x)

/-- The switch that a text denotes. -/
def readBool (text : Text) : Except Fault Bool :=
  let word := Text.lower text
  match switchWords.find? fun w => word == Text.ofString w.1 with
  | some w => .ok w.2
  | none => .error (.scalar (.notASwitch word))

/-- The timestamp that a text denotes.  A line feed may end it. -/
def readTimestamp (text : Text) : Except Fault Timestamp :=
  match Timestamp.read? (Text.withoutFinalNewline text.toChars) with
  | none => .error (.scalar .notATimestamp)
  | some t =>
    match t.check with
    | .ok () => .ok t
    | .error fault => .error (.scalar (.timestamp fault))

/-- The octets that a text denotes. -/
def readOctets (text : Text) : Except Fault (List UInt8) :=
  if text.all fun c => c.number < 0x80 then orMalformed (Text.Base64.decode? text.toChars)
  else .error .malformed

/-! ## Nodes -/

/-- Tests for a node that is a mapping. -/
def isMapping (g : Graph) (id : NodeId) : Bool := (g.pairs? id).isSome

/-- The value of a node. -/
def ofNode (g : Graph) (id : NodeId) : Except Fault Value :=
  match g.kind? id with
  | some .null => (g.text id).map fun _ => null
  | some .bool => (g.text id >>= readBool).map bool
  | some .int => (g.text id >>= readInt).map int
  | some .float => g.text id >>= readReal id
  | some .text => (g.text id).map text
  | some .binary => (g.text id >>= readOctets).map octets
  | some .timestamp => do
    let s ← g.text id
    if isMapping g id then .error (.scalar .mappingAsTimestamp)
    else (readTimestamp s).map timestamp
  | some .sequence | some .mapping | some .set | some .orderedMapping | some .pairs =>
    .ok collection
  | some .merge | some .default | some .indicator | none => .error .malformed

/-! ## Keys -/

/-- The integer that a value equals as a number. -/
def integer? : Value → Option Int
  | bool b => some (if b then 1 else 0)
  | int i => some i
  | real x => x.integer?
  | _ => none

/-- Tests whether two keys are one. -/
def sameKey (v w : Value) : Bool :=
  match v.integer?, w.integer? with
  | some i, some j => i == j
  | none, none =>
    match v, w with
    | timestamp t, timestamp u => t.same u
    | v, w => v == w
  | _, _ => false

/-- Tests whether a value can be a key: a collection cannot. -/
def canBeKey : Value → Bool
  | collection => false
  | _ => true

/-- Sets an entry of a mapping.  A key that is there already stays as it is and where it is. -/
def insert (entries : List (Value × Value)) (key value : Value) : List (Value × Value) :=
  match entries with
  | [] => [(key, value)]
  | (k, v) :: rest =>
    if sameKey k key then (k, value) :: rest else (k, v) :: insert rest key value

end Value

end SqlFrontEnd.Yaml
