import SqlFrontEnd.Yaml.Alias
import SqlFrontEnd.Yaml.Merge
import SqlFrontEnd.Yaml.TokenStream
import SqlFrontEnd.Yaml.Value

/-!
# The documents of YAML texts

A document is the value of its root, and where that is a mapping, the values of its entries.  All
nodes of a document must have values.  A collection is looked into only after all those that were
met before it, so that of several faults the one nearest to the root is found.

* `Document`: the documents.
* `Construction`: the nodes whose values are known, and the collections that have been met.
* `Document.read`: the document of a text.
-/

namespace SqlFrontEnd.Yaml

/-- A document. -/
inductive Document where
  /-- A root that is no mapping. -/
  | value (v : Value)
  /-- A root that is a mapping. -/
  | mapping (entries : List (Value × Value))
deriving DecidableEq, Repr

/-- The state of finding the values of the nodes of a graph. -/
structure Construction where
  graph : Graph
  /-- The values that are known, by the numbers of their nodes. -/
  values : Array (Option Value)
  /-- The collections in the order in which they were met. -/
  met : Array NodeId
  /-- More than the number of pairs of the graph that merge. -/
  mergeBound : Nat

namespace Construction

/-- The state at the beginning. -/
def start (g : Graph) : Construction :=
  ⟨g, Array.replicate g.nodes.size none, #[], g.mergeCount + 1⟩

/-- The value of a node.  It is found once; a collection is noted then. -/
def value (c : Construction) (id : NodeId) : Except Fault (Value × Construction) :=
  match c.values[id]? with
  | some (some v) => .ok (v, c)
  | _ => do
    let v ← Value.ofNode c.graph id
    let met := if v.canBeKey then c.met else c.met.push id
    return (v, { c with values := c.values.setIfInBounds id (some v), met })

/-- Finds the values of the items of a sequence. -/
def items (c : Construction) : List NodeId → Except Fault Construction
  | [] => .ok c
  | id :: ids => do
    let (_, c) ← c.value id
    items c ids

/-- Finds the values of the items of a sequence of pairs, each of which is a mapping of one. -/
def singlePairs (c : Construction) : List NodeId → Except Fault Construction
  | [] => .ok c
  | id :: ids =>
    match c.graph.pairs? id with
    | some [(k, v)] => do
      let (_, c) ← c.value k
      let (_, c) ← c.value v
      singlePairs c ids
    | _ => .error .malformed

/-- The entries of a mapping after those that are known. -/
def entries (c : Construction) (known : List (Value × Value)) :
    List (NodeId × NodeId) → Except Fault (List (Value × Value) × Construction)
  | [] => .ok (known, c)
  | (k, v) :: pairs => do
    let (key, c) ← c.value k
    if key.canBeKey then
      let (value, c) ← c.value v
      entries c (Value.insert known key value) pairs
    else .error .malformed

/-- Looks into a collection, for the entries that it has if it is a mapping. -/
def lookInto (c : Construction) (id : NodeId) :
    Except Fault (List (Value × Value) × Construction) :=
  match c.graph.kind? id, c.graph.content? id with
  | some .sequence, some (.sequence ids) => (c.items ids).map fun c => ([], c)
  | some .orderedMapping, some (.sequence ids) | some .pairs, some (.sequence ids) =>
    (c.singlePairs ids).map fun c => ([], c)
  | some .mapping, some (.mapping _) | some .set, some (.mapping _) => do
    let (pairs, graph) ← orMalformed (c.graph.flatten? c.mergeBound id)
    entries { c with graph } [] pairs
  | _, _ => .error .malformed

/-- Looks into all collections from a place among those that have been met.  None is met twice, so
the number of nodes bounds this. -/
def lookIntoFrom : Nat → Nat → Construction → Except Fault Unit
  | 0, _, _ => .ok ()
  | fuel + 1, place, c =>
    match c.met[place]? with
    | none => .ok ()
    | some id => do
      let (_, c) ← c.lookInto id
      lookIntoFrom fuel (place + 1) c

/-- The document with a given root. -/
def document (c : Construction) (root : NodeId) : Except Fault Document := do
  let isMapping := c.graph.kind? root == some .mapping
  let (v, c) ← c.value root
  if v.canBeKey then return .value v
  else
    let (entries, c) ← c.lookInto root
    lookIntoFrom c.graph.nodes.size 1 c
    return if isMapping then .mapping entries else .value v

end Construction

/-- The document of a text.  A text without a document has the value that stands for nothing. -/
def Document.read (text : List Char) : Except Fault Document :=
  if text.all isPrintable then do
    let tokens ← tokens text
    if namesAgree [] tokens then
      match ← Tree.document tokens with
      | none => return .value .null
      | some tree =>
        let (root, graph) ← orMalformed (Graph.ofTree? tree)
        (Construction.start graph).document root
    else .error .malformed
  else .error .malformed

end SqlFrontEnd.Yaml
