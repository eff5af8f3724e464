import SqlFrontEnd.Yaml.Resolution
import SqlFrontEnd.Yaml.Tree

/-!
# Graphs of nodes

What a tree denotes is a graph: an alias is the very node that its anchor names, so a node may be
in many places, and a collection may be within itself.  Nodes are known by their numbers.  Each has
a kind, from its tag or from its spelling.

* `Node`, `Graph`: the nodes and their graphs.
* `Graph.ofTree?`: the graph of a tree, and the number of its root.
* `Graph.text`: the text of a node.
-/

namespace SqlFrontEnd.Yaml

/-- The number of a node in its graph. -/
abbrev NodeId := Nat

/-- What a node consists of. -/
inductive Content where
  | scalar (text : Text)
  | sequence (items : List NodeId)
  | mapping (pairs : List (NodeId × NodeId))
deriving DecidableEq, Repr

/-- A node.  One whose tag names no kind has none. -/
structure Node where
  kind : Option Kind
  content : Content
deriving DecidableEq, Repr

/-- A graph of nodes. -/
structure Graph where
  nodes : Array Node
deriving DecidableEq, Repr

namespace Graph

/-- The kind of a node. -/
def kind? (g : Graph) (id : NodeId) : Option Kind := (g.nodes[id]?).bind (·.kind)

/-- The content of a node. -/
def content? (g : Graph) (id : NodeId) : Option Content := (g.nodes[id]?).map (·.content)

/-- The pairs of a node that is a mapping. -/
def pairs? (g : Graph) (id : NodeId) : Option (List (NodeId × NodeId)) :=
  match g.content? id with
  | some (.mapping pairs) => some pairs
  | _ => none

/-- A graph with another kind for a node. -/
def setKind (g : Graph) (id : NodeId) (kind : Kind) : Graph :=
  ⟨g.nodes.modify id fun n => { n with kind := some kind }⟩

/-- A graph with another content for a node. -/
def setContent (g : Graph) (id : NodeId) (content : Content) : Graph :=
  ⟨g.nodes.modify id fun n => { n with content }⟩

/-! ## Kinds -/

/-- The kind of a node with a tag, or without one that says anything. -/
def kindOf (tag : Option String) (otherwise : Kind) : Option Kind :=
  match tag with
  | none => some otherwise
  | some tag => if tag == "!" then some otherwise else Kind.ofTag? tag

/-- The kind of a text. -/
def scalarKind (tag : Option String) (text : Text) (plain : Bool) : Option Kind :=
  let resolved := if plain || tag == some "!" then Kind.ofPlain text else .text
  kindOf tag resolved

/-! ## From trees -/

/-- A graph that is being built, with the nodes that have names. -/
structure Builder where
  graph : Graph
  names : List (String × NodeId)

/-- Adds a node, with its name if it has one. -/
def Builder.add (b : Builder) (p : Properties) (node : Node) : NodeId × Builder :=
  let id := b.graph.nodes.size
  let names := match p.anchor with
    | none => b.names
    | some name => (name, id) :: b.names
  (id, ⟨⟨b.graph.nodes.push node⟩, names⟩)

/-- Sets the content of a node. -/
def Builder.fill (b : Builder) (id : NodeId) (content : Content) : Builder :=
  { b with graph := b.graph.setContent id content }

mutual

/-- Adds the nodes of a tree, unless it holds an alias of no known name.  A collection is added, and
its name known, before what it consists of. -/
def addTree? (b : Builder) : Tree → Option (NodeId × Builder)
  | .alias name => (b.names.lookup name).map fun id => (id, b)
  | .scalar p text plain => some (b.add p ⟨scalarKind p.tag text plain, .scalar text⟩)
  | .sequence p items =>
    let (id, b) := b.add p ⟨kindOf p.tag .sequence, .sequence []⟩
    match addItems? b items with
    | none => none
    | some (items, b) => some (id, b.fill id (.sequence items))
  | .mapping p pairs =>
    let (id, b) := b.add p ⟨kindOf p.tag .mapping, .mapping []⟩
    match addPairs? b pairs with
    | none => none
    | some (pairs, b) => some (id, b.fill id (.mapping pairs))

/-- Adds the nodes of the items of a sequence. -/
def addItems? (b : Builder) : List Tree → Option (List NodeId × Builder)
  | [] => some ([], b)
  | t :: ts =>
    match addTree? b t with
    | none => none
    | some (item, b) => (addItems? b ts).map fun r => (item :: r.1, r.2)

/-- Adds the nodes of the pairs of a mapping. -/
def addPairs? (b : Builder) : List (Tree × Tree) → Option (List (NodeId × NodeId) × Builder)
  | [] => some ([], b)
  | (k, v) :: ts =>
    match addTree? b k with
    | none => none
    | some (key, b) =>
      match addTree? b v with
      | none => none
      | some (value, b) => (addPairs? b ts).map fun r => ((key, value) :: r.1, r.2)

end

/-- The graph of a tree, and the number of its root. -/
def ofTree? (tree : Tree) : Option (NodeId × Graph) :=
  (addTree? ⟨⟨#[]⟩, []⟩ tree).map fun r => (r.1, r.2.graph)

/-! ## Texts -/

/-- The text of a node through at most so many mappings.  The text of a mapping is that of the first
of its values whose key is the sign for a default. -/
def textWithin (g : Graph) : Nat → NodeId → Except Fault Text
  | 0, _ => .error (.scalar .endless)
  | fuel + 1, id =>
    match g.content? id with
    | some (.scalar text) => .ok text
    | some (.mapping pairs) =>
      match pairs.find? fun p => g.kind? p.1 == some .default with
      | some p => textWithin g fuel p.2
      | none => .error .malformed
    | _ => .error .malformed

/-- The text of a node.  A way through more mappings than there are comes back to one of them, and
never ends. -/
def text (g : Graph) (id : NodeId) : Except Fault Text := g.textWithin (g.nodes.size + 1) id

end Graph

end SqlFrontEnd.Yaml
