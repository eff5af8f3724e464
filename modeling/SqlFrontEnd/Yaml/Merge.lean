import SqlFrontEnd.Yaml.Graph

/-!
# Merging

A pair whose key is the sign for merging stands for the pairs of the mapping that is its value, or
of the mappings of a sequence.  They come before the pairs that the mapping has itself, so that its
own prevail; and of the mappings of a sequence the last one comes first.

* `Graph.flatten?`: a graph in which a mapping has no such pair any more.
* `Graph.mergeCount`: the bound that it takes on its recursion, which takes out one such pair at
  each level.
-/

namespace SqlFrontEnd.Yaml

namespace Graph

/-- Tests for a pair that merges. -/
def isMerge (g : Graph) (p : NodeId × NodeId) : Bool := g.kind? p.1 == some .merge

/-- The number of pairs of a graph that merge. -/
def mergeCount (g : Graph) : Nat :=
  g.nodes.foldl (fun n node =>
    match node.content with
    | .mapping pairs => n + pairs.countP g.isMerge
    | _ => n) 0

/-- Takes the sign for a default for a text where it is a key. -/
def plainKeys (g : Graph) (pairs : List (NodeId × NodeId)) : Graph :=
  pairs.foldl (fun g p => if g.kind? p.1 == some .default then g.setKind p.1 .text else g) g

/-- Runs a step of a graph on each of a list of nodes, for the results in reverse order. -/
def reverseEach? {α : Type} (step : Graph → NodeId → Option (α × Graph)) (g : Graph) :
    List NodeId → List α → Option (List α × Graph)
  | [], results => some (results, g)
  | id :: ids, results =>
    match step g id with
    | none => none
    | some (a, g) => reverseEach? step g ids (a :: results)

/-- Puts pairs in front of those of a mapping. -/
def prepend (g : Graph) (id : NodeId) (more : List (NodeId × NodeId)) : Graph :=
  g.setContent id (.mapping (more ++ (g.pairs? id).getD []))

/-- Writes out the merges of a mapping and of those that are merged into it, and gives the pairs
that it has then.  The bound must exceed the number of pairs that merge.  Each of them is taken out
before what it stands for is sought, so that a mapping may be merged into itself. -/
def flatten? : Nat → Graph → NodeId → Option (List (NodeId × NodeId) × Graph)
  | 0, _, _ => none
  | fuel + 1, g, id => do
    let pairs ← g.pairs? id
    match pairs.find? g.isMerge with
    | none => return (pairs, g.plainKeys pairs)
    | some p =>
      let g := g.setContent id (.mapping (pairs.eraseP g.isMerge))
      let (more, g) ←
        match g.content? p.2 with
        | some (.mapping _) => flatten? fuel g p.2
        | some (.sequence items) =>
          (reverseEach? (flatten? fuel) g items []).map fun r => (r.1.flatten, r.2)
        | _ => none
      let (_, g) ← flatten? fuel g id
      let g := g.prepend id more
      return ((g.pairs? id).getD [], g)

end Graph

end SqlFrontEnd.Yaml
