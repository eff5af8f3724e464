import Mathlib
import SqlFrontEnd.Proofs.Yaml.Denotation
import SqlFrontEnd.Proofs.Yaml.Refusal
import SqlFrontEnd.Proofs.Yaml.Scanning
import SqlFrontEnd.Yaml.Document

/-!
# Documents that can be constructed

A document can fail to be constructed in two ways: it is not well-formed, or a part of it denotes
nothing.  The second cannot happen where each text of the tree denotes something of its kind and
each mapping is tagged as a collection.  Graphs of such trees are legible in the same sense, and
stay so while mappings are merged, because that puts new pairs only into mappings and turns no key
into anything but a text.

* `Tree.Legible`, `Node.Legible`, `Graph.Legible` — where all texts denote something.
* `Graph.Keeps` — what building and merging leave as it is; `keeps_ofTree?`, `keeps_flatten?`.
* `Legible` — texts whose tokens and whose tree are so; **`constructs_read`** — they have a document
  or are not well-formed.
-/

namespace SqlFrontEnd

namespace Yaml

/-! ## Legible trees and graphs -/

/-- The kinds of collections. -/
def Kind.isCollection : Kind → Bool
  | sequence | mapping | set | orderedMapping | pairs => true
  | _ => false

/-- A tree in which each text denotes something of its kind, and each mapping has the tag of a
collection, or one that is unknown. -/
inductive Tree.Legible : Tree → Prop
  | named (name : String) : Legible (.alias name)
  | scalar {p : Properties} {text : Text} {plain : Bool}
      (h : ∀ kind ∈ Graph.scalarKind p.tag text plain, Denotes kind text) :
      Legible (.scalar p text plain)
  | sequence {p : Properties} {items : List Tree} (h : ∀ item ∈ items, Legible item) :
      Legible (.sequence p items)
  | mapping {p : Properties} {pairs : List (Tree × Tree)}
      (hkind : ∀ kind ∈ Graph.kindOf p.tag .mapping, kind.isCollection = true)
      (hkeys : ∀ pair ∈ pairs, Legible pair.1) (hvalues : ∀ pair ∈ pairs, Legible pair.2) :
      Legible (.mapping p pairs)

/-- A node whose content fits its kind. -/
def Node.Legible (n : Node) : Prop :=
  ∀ kind ∈ n.kind,
    match n.content with
    | .scalar text => Denotes kind text
    | .sequence _ => True
    | .mapping _ => kind.isCollection = true

namespace Graph

/-- A graph whose nodes are legible. -/
def Legible (g : Graph) : Prop := ∀ n ∈ g.nodes, n.Legible

/-- A node may become a mapping. -/
def Open (g : Graph) (id : NodeId) : Prop :=
  ∃ n, g.nodes[id]? = some n ∧ ∀ kind ∈ n.kind, kind.isCollection = true

/-- What a legible graph keeps while it changes: it stays legible, and what may become a mapping
still may. -/
structure Keeps (g g' : Graph) : Prop where
  legible : g'.Legible
  open_of_open : ∀ id, g.Open id → g'.Open id

variable {g g' g'' : Graph} {id : NodeId}

lemma Legible.keeps (h : g.Legible) : Keeps g g := ⟨h, fun _ hid => hid⟩

lemma Keeps.trans (h : Keeps g g') (h' : Keeps g' g'') : Keeps g g'' :=
  ⟨h'.legible, fun id hid => h'.open_of_open id (h.open_of_open id hid)⟩

lemma Legible.of_getElem? (h : g.Legible) {n : Node} (hn : g.nodes[id]? = some n) : n.Legible :=
  h n (Array.mem_of_getElem? hn)

/-- A mapping of a legible graph may become another one. -/
lemma Legible.open_of_pairs? (h : g.Legible) {pairs : List (NodeId × NodeId)}
    (hpairs : g.pairs? id = some pairs) : g.Open id := by
  rw [pairs?, content?] at hpairs
  cases hn : g.nodes[id]? with
  | none => simp [hn] at hpairs
  | some n =>
      have hlegible := h.of_getElem? hn
      refine ⟨n, hn, fun kind hkind => ?_⟩
      have hkind := hlegible kind hkind
      rw [hn] at hpairs
      cases hcontent : n.content <;> simp [hcontent] at hpairs hkind
      exact hkind

/-- **Changing one node** keeps a graph, where the node stays legible and what may become a mapping
still may. -/
lemma Legible.keeps_modify (h : g.Legible) {f : Node → Node}
    (hf : ∀ n, g.nodes[id]? = some n → (f n).Legible ∧
      ((∀ kind ∈ n.kind, kind.isCollection = true) →
        ∀ kind ∈ (f n).kind, kind.isCollection = true)) :
    Keeps g ⟨g.nodes.modify id f⟩ := by
  constructor
  · intro n hn
    obtain ⟨i, hi⟩ := Array.mem_iff_getElem?.1 hn
    rw [Array.getElem?_modify] at hi
    split_ifs at hi with hid
    · obtain ⟨m, hm, rfl⟩ := Option.map_eq_some_iff.1 hi
      subst hid
      exact (hf m hm).1
    · exact h.of_getElem? hi
  · rintro i ⟨n, hn, hkind⟩
    by_cases hid : id = i
    · subst hid
      exact ⟨f n, by simp [Array.getElem?_modify, hn], (hf n hn).2 hkind⟩
    · exact ⟨n, by simp [Array.getElem?_modify, hid, hn], hkind⟩

lemma Legible.keeps_setSequence (h : g.Legible) (items : List NodeId) :
    Keeps g (g.setContent id (.sequence items)) :=
  h.keeps_modify fun _ _ => ⟨fun _ _ => trivial, fun hkind => hkind⟩

lemma Legible.keeps_setMapping (h : g.Legible) (hid : g.Open id)
    (pairs : List (NodeId × NodeId)) : Keeps g (g.setContent id (.mapping pairs)) := by
  obtain ⟨n, hn, hkind⟩ := hid
  refine h.keeps_modify fun m hm => ?_
  obtain rfl := Option.some.inj (hn.symm.trans hm)
  exact ⟨hkind, fun hkind => hkind⟩

/-! ## Building graphs -/

lemma Legible.keeps_push (h : g.Legible) {n : Node} (hn : n.Legible) :
    Keeps g ⟨g.nodes.push n⟩ := by
  constructor
  · intro m hm
    obtain hm | rfl := Array.mem_push.1 hm
    · exact h m hm
    · exact hn
  · rintro i ⟨m, hm, hkind⟩
    obtain ⟨hi, -⟩ := Array.getElem?_eq_some_iff.1 hm
    exact ⟨m, by rw [Array.getElem?_push_lt hi, ← hm, Array.getElem?_eq_getElem hi], hkind⟩

lemma keeps_add {b : Builder} (h : b.graph.Legible) (p : Properties) {n : Node} (hn : n.Legible) :
    Keeps b.graph (b.add p n).2.graph :=
  h.keeps_push hn

/-- A node that was added is the last one. -/
lemma open_add (b : Builder) (p : Properties) {n : Node}
    (hkind : ∀ kind ∈ n.kind, kind.isCollection = true) :
    (b.add p n).2.graph.Open (b.add p n).1 :=
  ⟨n, Array.getElem?_push_size, hkind⟩

mutual

/-- **Adding a legible tree** keeps a graph. -/
lemma keeps_addTree? {b b' : Builder} {tree : Tree} {root : NodeId} (h : b.graph.Legible)
    (htree : tree.Legible) (hadd : addTree? b tree = some (root, b')) :
    Keeps b.graph b'.graph := by
  cases htree with
  | named name =>
      rw [addTree?] at hadd
      obtain ⟨i, -, hi⟩ := Option.map_eq_some_iff.1 hadd
      obtain ⟨rfl, rfl⟩ := Prod.mk.inj hi
      exact h.keeps
  | @scalar p text plain hkind =>
      rw [addTree?] at hadd
      cases hadd
      exact keeps_add h p hkind
  | @sequence p items hitems =>
      have hn : Node.Legible ⟨kindOf p.tag .sequence, .sequence []⟩ := fun _ _ => trivial
      rw [addTree?] at hadd
      dsimp only at hadd
      split at hadd
      · cases hadd
      · next ids b'' hadd' =>
        cases hadd
        have hadded := keeps_add h p hn
        have hitems := keeps_addItems? hadded.legible hitems hadd'
        exact (hadded.trans hitems).trans (hitems.legible.keeps_setSequence _)
  | @mapping p pairs hkind hkeys hvalues =>
      have hn : Node.Legible ⟨kindOf p.tag .mapping, .mapping []⟩ := hkind
      rw [addTree?] at hadd
      dsimp only at hadd
      split at hadd
      · cases hadd
      · next ids b'' hadd' =>
        cases hadd
        have hadded := keeps_add h p hn
        have hpairs := keeps_addPairs? hadded.legible hkeys hvalues hadd'
        have hopen := hpairs.open_of_open _ (open_add b p hkind)
        exact (hadded.trans hpairs).trans (hpairs.legible.keeps_setMapping hopen _)

lemma keeps_addItems? {b b' : Builder} {items : List Tree} {ids : List NodeId}
    (h : b.graph.Legible) (hitems : ∀ item ∈ items, item.Legible)
    (hadd : addItems? b items = some (ids, b')) : Keeps b.graph b'.graph := by
  cases items with
  | nil =>
      rw [addItems?] at hadd
      cases hadd
      exact h.keeps
  | cons item items =>
      obtain ⟨hitem, hitems⟩ := List.forall_mem_cons.1 hitems
      rw [addItems?] at hadd
      split at hadd
      · cases hadd
      · next i b'' hadd' =>
        obtain ⟨r, hr, hcons⟩ := Option.map_eq_some_iff.1 hadd
        cases hcons
        have hfirst := keeps_addTree? h hitem hadd'
        exact hfirst.trans (keeps_addItems? hfirst.legible hitems hr)

lemma keeps_addPairs? {b b' : Builder} {pairs : List (Tree × Tree)}
    {ids : List (NodeId × NodeId)} (h : b.graph.Legible)
    (hkeys : ∀ pair ∈ pairs, pair.1.Legible) (hvalues : ∀ pair ∈ pairs, pair.2.Legible)
    (hadd : addPairs? b pairs = some (ids, b')) : Keeps b.graph b'.graph := by
  match pairs with
  | [] =>
      rw [addPairs?] at hadd
      cases hadd
      exact h.keeps
  | (key, value) :: pairs =>
      obtain ⟨hkey, hkeys⟩ := List.forall_mem_cons.1 hkeys
      obtain ⟨hvalue, hvalues⟩ := List.forall_mem_cons.1 hvalues
      rw [addPairs?] at hadd
      split at hadd
      · cases hadd
      · next i b₁ hadd₁ =>
        split at hadd
        · cases hadd
        · next j b₂ hadd₂ =>
          obtain ⟨r, hr, hcons⟩ := Option.map_eq_some_iff.1 hadd
          cases hcons
          have hfirst := keeps_addTree? h hkey hadd₁
          have hsecond := hfirst.trans (keeps_addTree? hfirst.legible hvalue hadd₂)
          exact hsecond.trans (keeps_addPairs? hsecond.legible hkeys hvalues hr)

end

/-- **The graph of a legible tree** is legible. -/
lemma legible_ofTree? {tree : Tree} (h : tree.Legible) (hg : ofTree? tree = some (id, g)) :
    g.Legible := by
  obtain ⟨r, hr, hcons⟩ := Option.map_eq_some_iff.1 hg
  cases hcons
  exact (keeps_addTree? (fun n hn => absurd hn (Array.not_mem_empty n)) h hr).legible

/-! ## Merging -/

/-- A sign for a default may become a text. -/
lemma Legible.keeps_setText (h : g.Legible) (hid : g.kind? id = some .default) :
    Keeps g (g.setKind id .text) := by
  refine h.keeps_modify fun n hn => ?_
  rw [kind?, hn] at hid
  have hlegible := h.of_getElem? hn .default hid
  refine ⟨?_, fun hkind => absurd (hkind .default hid) (by decide)⟩
  rintro _ ⟨⟩
  cases hcontent : n.content with
  | scalar text => exact .any (by decide)
  | sequence => exact trivial
  | mapping =>
      rw [hcontent] at hlegible
      cases hlegible

lemma Legible.keeps_plainKeys (h : g.Legible) (pairs : List (NodeId × NodeId)) :
    Keeps g (g.plainKeys pairs) := by
  induction pairs generalizing g with
  | nil => exact h.keeps
  | cons p pairs ih =>
      rw [plainKeys, List.foldl_cons]
      split_ifs with hdefault
      · have htext := h.keeps_setText (beq_iff_eq.1 hdefault)
        exact htext.trans (ih htext.legible)
      · exact ih h

lemma keeps_reverseEach? {α : Type} {step : Graph → NodeId → Option (α × Graph)}
    (hstep : ∀ g id r, g.Legible → step g id = some r → Keeps g r.2) {ids : List NodeId}
    {results : List α} {r : List α × Graph} (h : g.Legible)
    (hr : reverseEach? step g ids results = some r) : Keeps g r.2 := by
  induction ids generalizing g results with
  | nil =>
      rw [reverseEach?] at hr
      cases hr
      exact h.keeps
  | cons id ids ih =>
      rw [reverseEach?] at hr
      split at hr
      · cases hr
      · next a g' hfirst =>
        have hfirst := hstep g id _ h hfirst
        exact hfirst.trans (ih hfirst.legible hr)

/-- **Merging** keeps a graph. -/
lemma keeps_flatten? {fuel : ℕ} {r : List (NodeId × NodeId) × Graph} (h : g.Legible)
    (hr : g.flatten? fuel id = some r) : Keeps g r.2 := by
  induction fuel generalizing g id r with
  | zero => cases hr
  | succ fuel ih =>
      rw [flatten?] at hr
      obtain ⟨pairs, hpairs, hr⟩ := Option.bind_eq_some_iff.1 hr
      have hid := h.open_of_pairs? hpairs
      split at hr
      · cases hr
        exact h.keeps_plainKeys pairs
      · next p _ =>
        have hcut := h.keeps_setMapping hid (pairs.eraseP g.isMerge)
        have hfinish (more : List (NodeId × NodeId)) (g₁ : Graph) (hmore : Keeps g g₁)
            (hr : ((flatten? fuel g₁ id).bind fun own =>
              some (((own.2.prepend id more).pairs? id).getD [], own.2.prepend id more)) =
                some r) : Keeps g r.2 := by
          obtain ⟨⟨own, g₂⟩, hown, hr⟩ := Option.bind_eq_some_iff.1 hr
          cases hr
          have hall := hmore.trans (ih hmore.legible hown)
          exact hall.trans (hall.legible.keeps_setMapping (hall.open_of_open id hid) _)
        dsimp only at hr
        split at hr
        · obtain ⟨⟨more, g₁⟩, hmore, hr⟩ := Option.bind_eq_some_iff.1 hr
          exact hfinish more g₁ (hcut.trans (ih hcut.legible hmore)) hr
        · obtain ⟨⟨more, g₁⟩, hmore, hr⟩ := Option.bind_eq_some_iff.1 hr
          obtain ⟨r', hr', heq⟩ := Option.map_eq_some_iff.1 hmore
          cases heq
          have hmore := keeps_reverseEach? (fun g id r => ih) hcut.legible hr'
          exact hfinish _ _ (hcut.trans hmore) hr
        · cases hr

end Graph

/-! ## The values of nodes -/

variable {g : Graph} {id : NodeId}

lemma constructs_readOctets (text : Text) : Constructs (fun _ => True) (Value.readOctets text) := by
  unfold Value.readOctets
  split_ifs
  · exact constructs_orMalformed fun _ _ => trivial
  · exact .malformed

section

variable {n : Node} {text : Text}

lemma kind?_of_getElem? (hn : g.nodes[id]? = some n) : g.kind? id = n.kind := by
  rw [Graph.kind?, hn]
  rfl

lemma text_of_scalar (hn : g.nodes[id]? = some n) (hcontent : n.content = .scalar text) :
    g.text id = .ok text := by
  simp [Graph.text, Graph.textWithin, Graph.content?, hn, hcontent]

lemma text_of_sequence (hn : g.nodes[id]? = some n) {items : List NodeId}
    (hcontent : n.content = .sequence items) : g.text id = .error .malformed := by
  simp [Graph.text, Graph.textWithin, Graph.content?, hn, hcontent]

lemma not_isMapping_of_scalar (hn : g.nodes[id]? = some n) (hcontent : n.content = .scalar text) :
    Value.isMapping g id = false := by
  simp [Value.isMapping, Graph.pairs?, Graph.content?, hn, hcontent]

/-- A text that denotes something of its kind. -/
lemma constructs_ofNode_of_scalar {kind : Kind} (hkind : g.kind? id = some kind)
    (htext : g.text id = .ok text) (hmapping : Value.isMapping g id = false)
    (h : Denotes kind text) : Constructs (fun _ => True) (Value.ofNode g id) := by
  simp only [Value.ofNode, hkind, htext, hmapping]
  cases kind with
  | bool =>
      obtain ⟨b, hb⟩ := readBool_of_denotes h
      change Constructs _ ((Value.readBool text).map _)
      rw [hb]
      exact .ok trivial
  | int =>
      obtain ⟨i, hi⟩ := readInt_of_denotes h
      change Constructs _ ((Value.readInt text).map _)
      rw [hi]
      exact .ok trivial
  | float =>
      obtain ⟨v, hv⟩ := readReal_of_denotes id h
      change Constructs _ (Value.readReal id text)
      rw [hv]
      exact .ok trivial
  | timestamp =>
      obtain ⟨t, ht⟩ := readTimestamp_of_denotes h
      change Constructs _ ((Value.readTimestamp text).map _)
      rw [ht]
      exact .ok trivial
  | binary => exact (constructs_readOctets text).map fun _ _ => trivial
  | merge | default | indicator => exact .malformed
  | _ => exact .ok trivial

/-- **A node of a legible graph** denotes something. -/
lemma constructs_ofNode (h : g.Legible) : Constructs (fun _ => True) (Value.ofNode g id) := by
  cases hn : g.nodes[id]? with
  | none =>
      have hkind : g.kind? id = none := by rw [Graph.kind?, hn]; rfl
      rw [Value.ofNode, hkind]
      exact .malformed
  | some n =>
      have hkind := kind?_of_getElem? hn
      cases hk : n.kind with
      | none =>
          rw [Value.ofNode, hkind, hk]
          exact .malformed
      | some kind =>
          have hfits := h.of_getElem? hn kind hk
          cases hcontent : n.content with
          | scalar text =>
              rw [hcontent] at hfits
              exact constructs_ofNode_of_scalar (hkind.trans hk) (text_of_scalar hn hcontent)
                (not_isMapping_of_scalar hn hcontent) hfits
          | sequence items =>
              simp only [Value.ofNode, hkind, hk, text_of_sequence hn hcontent]
              cases kind <;> constructor <;> trivial
          | mapping pairs =>
              rw [hcontent] at hfits
              simp only [Value.ofNode, hkind, hk]
              cases kind <;> first | exact .ok trivial | exact .malformed | cases hfits

end

/-! ## Documents -/

namespace Construction

variable {c : Construction}

lemma constructs_value (h : c.graph.Legible) (id : NodeId) :
    Constructs (fun r => r.2.graph.Legible) (c.value id) := by
  unfold value
  split
  · exact .ok h
  · exact (constructs_ofNode h).bind fun _ _ => .ok h

lemma constructs_items (h : c.graph.Legible) (ids : List NodeId) :
    Constructs (fun c => c.graph.Legible) (c.items ids) := by
  induction ids generalizing c with
  | nil => exact .ok h
  | cons id ids ih => exact (constructs_value h id).bind fun _ hc => ih hc

lemma constructs_singlePairs (h : c.graph.Legible) (ids : List NodeId) :
    Constructs (fun c => c.graph.Legible) (c.singlePairs ids) := by
  induction ids generalizing c with
  | nil => exact .ok h
  | cons id ids ih =>
      rw [singlePairs]
      split
      · refine (constructs_value h _).bind fun r hkey => ?_
        exact (constructs_value hkey _).bind fun r hvalue => ih hvalue
      · exact .malformed

lemma constructs_entries (h : c.graph.Legible) (known : List (Value × Value))
    (pairs : List (NodeId × NodeId)) :
    Constructs (fun r => r.2.graph.Legible) (c.entries known pairs) := by
  induction pairs generalizing c known with
  | nil => exact .ok h
  | cons p pairs ih =>
      refine (constructs_value h p.1).bind fun r hkey => ?_
      dsimp only
      split_ifs
      · exact (constructs_value hkey p.2).bind fun r hvalue => ih hvalue _
      · exact .malformed

lemma constructs_lookInto (h : c.graph.Legible) (id : NodeId) :
    Constructs (fun r => r.2.graph.Legible) (c.lookInto id) := by
  have hmerged : Gives (fun r => r.2.Legible) (c.graph.flatten? c.mergeBound id) :=
    fun r hr => (Graph.keeps_flatten? h hr).legible
  unfold lookInto
  split
  · exact (constructs_items h _).map fun _ hc => hc
  · exact (constructs_singlePairs h _).map fun _ hc => hc
  · exact (constructs_singlePairs h _).map fun _ hc => hc
  case h_4 | h_5 =>
    exact (constructs_orMalformed hmerged).bind fun r hr => constructs_entries hr _ _
  · exact .malformed

lemma constructs_lookIntoFrom (h : c.graph.Legible) (fuel place : ℕ) :
    Constructs (fun _ => True) (lookIntoFrom fuel place c) := by
  induction fuel generalizing place c with
  | zero => exact .ok trivial
  | succ fuel ih =>
      rw [lookIntoFrom]
      split
      · exact .ok trivial
      · exact (constructs_lookInto h _).bind fun r hr => ih hr _

/-- **A legible graph** has a document, or is not well-formed. -/
theorem constructs_document (h : c.graph.Legible) (root : NodeId) :
    Constructs (fun _ => True) (c.document root) := by
  unfold document
  refine (constructs_value h root).bind fun r hr => ?_
  dsimp only
  by_cases hkey : r.1.canBeKey = true
  · rw [if_pos hkey]
    exact .ok trivial
  · rw [if_neg hkey]
    refine (constructs_lookInto hr root).bind fun r hr => ?_
    refine (constructs_lookIntoFrom hr _ _).bind fun _ _ => ?_
    exact .ok trivial

end Construction

/-! ## Texts -/

/-- A text whose tokens can all be read, and whose document is legible if it has one. -/
structure Legible (text : List Char) : Prop where
  scannable : Scannable text
  tree : ∀ ts tree, tokens text = .ok ts → Tree.document ts = .ok (some tree) → tree.Legible

/-- **A legible text** has a document, or is not well-formed. -/
theorem constructs_read {text : List Char} (h : Legible text) :
    Constructs (fun _ => True) (Document.read text) := by
  have hscan := constructs_tokens h.scannable
  unfold Document.read
  refine Constructs.ite ?_ .malformed
  cases hts : tokens text with
  | error fault =>
      rw [hts] at hscan
      cases hscan
      exact .malformed
  | ok ts =>
      rw [hts] at hscan
      cases hscan with
      | ok hdenotes =>
          refine Constructs.ite ?_ .malformed
          rcases hdocument : Tree.document ts with (_ | fault) | _ | tree
          · exact .malformed
          · exact (hdenotes _ (Tree.unreadable_mem_of_document hdocument)).elim
          · exact .ok trivial
          · have hgraph : Gives (fun r => r.2.Legible) (Graph.ofTree? tree) :=
              fun r hr => Graph.legible_ofTree? (h.tree ts tree hts hdocument) hr
            exact (constructs_orMalformed hgraph).bind fun r hr =>
              Construction.constructs_document hr _

end Yaml

end SqlFrontEnd
