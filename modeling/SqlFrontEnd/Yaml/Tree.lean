import SqlFrontEnd.Yaml.Token

/-!
# Documents as they are written

The tokens of a document make up a tree of texts, sequences and mappings, any of which may carry an
anchor and a tag, and of aliases.  Things that are not written are there as empty plain texts: the
value of a key without one, or an entry that ends where it begins.

* `Tree`: the trees.
* `Tree.refusal`: why tokens are refused where no tree goes on with them.
* `Tree.document`: the tree of the one document that tokens may hold.

The grammar functions take a bound on their recursion; each of them passes on to at most a few
others before it takes a token, so a multiple of the number of tokens suffices.
-/

namespace SqlFrontEnd.Yaml

/-- What a node carries beside its content.  The tag is written out in full. -/
structure Properties where
  anchor : Option String
  tag : Option String
deriving DecidableEq, Repr

/-- A node as it is written. -/
inductive Tree where
  | alias (name : String)
  | scalar (properties : Properties) (text : Text) (plain : Bool)
  | sequence (properties : Properties) (items : List Tree)
  | mapping (properties : Properties) (pairs : List (Tree × Tree))
deriving Repr, Inhabited

namespace Tree

/-- Nothing, as a node. -/
def empty : Tree := .scalar ⟨none, none⟩ [] true

/-- The tags that the handles of a document stand for. -/
abbrev Handles := List (String × String)

/-- The handles that every document has, unless it says otherwise. -/
def defaultHandles : Handles := [("!", "!"), ("!!", "tag:yaml.org,2002:")]

/-- Why tokens are refused: one that denotes nothing is to blame itself. -/
def refusal : List Token → Fault
  | .unreadable fault :: _ => .scalar fault
  | _ => .malformed

/-- A tag written out in full. -/
def fullTag? (handles : Handles) (t : WrittenTag) : Option String :=
  match t.handle with
  | none => some t.suffix
  | some handle => (handles.lookup handle).map (· ++ t.suffix)

/-- The properties of an anchor and a tag.  The tag must have a handle that is known, unless the
tokens after it are refused in any case. -/
def propertiesOf (handles : Handles) (anchor : Option String) (t : WrittenTag)
    (rest : List Token) : Except Fault (Properties × List Token) :=
  match fullTag? handles t with
  | some tag => .ok (⟨anchor, some tag⟩, rest)
  | none => .error (if anchor.isSome then .malformed else refusal rest)

/-- Reads an anchor and a tag, in either order. -/
def properties (handles : Handles) : List Token → Except Fault (Properties × List Token)
  | .anchor a :: .tag t :: rest => propertiesOf handles (some a) t rest
  | .anchor a :: rest => .ok (⟨some a, none⟩, rest)
  | .tag t :: .anchor a :: rest => propertiesOf handles (some a) t rest
  | .tag t :: rest => propertiesOf handles none t rest
  | rest => .ok (⟨none, none⟩, rest)

/-- Where a node stands decides which collections it may be. -/
inductive Context where
  /-- Within brackets. -/
  | flow
  /-- In a block. -/
  | block
  /-- In a block mapping, where a sequence needs no indentation of its own. -/
  | entry
deriving DecidableEq, Repr

mutual

/-- Reads a node. -/
def node (handles : Handles) (context : Context) :
    Nat → List Token → Except Fault (Tree × List Token)
  | 0, _ => .error .malformed
  | fuel + 1, tokens =>
    match tokens with
    | .alias name :: rest => .ok (.alias name, rest)
    | _ => do
      let (p, rest) ← properties handles tokens
      match rest with
      | .scalar text plain :: rest => return (.scalar p text plain, rest)
      | .flowSequenceStart :: rest => do
        let (items, rest) ← flowItems handles true fuel rest
        return (.sequence p items, rest)
      | .flowMappingStart :: rest => do
        let (pairs, rest) ← flowPairs handles true fuel rest
        return (.mapping p pairs, rest)
      | _ => blockNode handles context p fuel rest

/-- Reads a node that is no text and not in brackets. -/
def blockNode (handles : Handles) (context : Context) (p : Properties) :
    Nat → List Token → Except Fault (Tree × List Token)
  | 0, _ => .error .malformed
  | fuel + 1, tokens =>
    match context, tokens with
    | .entry, .blockEntry :: _ => do
      let (items, rest) ← plainItems handles fuel tokens
      return (.sequence p items, rest)
    | .block, .blockSequenceStart :: rest | .entry, .blockSequenceStart :: rest => do
      let (items, rest) ← blockItems handles fuel rest
      return (.sequence p items, rest)
    | .block, .blockMappingStart :: rest | .entry, .blockMappingStart :: rest => do
      let (pairs, rest) ← blockPairs handles fuel rest
      return (.mapping p pairs, rest)
    | _, _ =>
      if p.anchor.isSome || p.tag.isSome then .ok (.scalar p [] true, tokens)
      else .error (refusal tokens)

/-- Reads a node, unless one of the given tokens shows that none is written. -/
def nodeUnless (handles : Handles) (context : Context) (absent : List Token) :
    Nat → List Token → Except Fault (Tree × List Token)
  | 0, _ => .error .malformed
  | fuel + 1, tokens =>
    match tokens with
    | [] => .error .malformed
    | t :: _ =>
      if absent.contains t then .ok (empty, tokens) else node handles context fuel tokens

/-- Reads the entries of a block sequence through its end. -/
def blockItems (handles : Handles) : Nat → List Token → Except Fault (List Tree × List Token)
  | 0, _ => .error .malformed
  | fuel + 1, tokens =>
    match tokens with
    | .blockEnd :: rest => .ok ([], rest)
    | .blockEntry :: rest => do
      let (item, rest) ← nodeUnless handles .block [.blockEntry, .blockEnd] fuel rest
      let (items, rest) ← blockItems handles fuel rest
      return (item :: items, rest)
    | _ => .error (refusal tokens)

/-- Reads the entries of a sequence that is not indented. -/
def plainItems (handles : Handles) : Nat → List Token → Except Fault (List Tree × List Token)
  | 0, _ => .error .malformed
  | fuel + 1, tokens =>
    match tokens with
    | .blockEntry :: rest => do
      let (item, rest) ←
        nodeUnless handles .block [.blockEntry, .key, .value, .blockEnd] fuel rest
      let (items, rest) ← plainItems handles fuel rest
      return (item :: items, rest)
    | _ => .ok ([], tokens)

/-- Reads the pairs of a block mapping through its end. -/
def blockPairs (handles : Handles) :
    Nat → List Token → Except Fault (List (Tree × Tree) × List Token)
  | 0, _ => .error .malformed
  | fuel + 1, tokens =>
    match tokens with
    | .blockEnd :: rest => .ok ([], rest)
    | .key :: rest => do
      let (key, rest) ← nodeUnless handles .entry [.key, .value, .blockEnd] fuel rest
      blockValue handles key fuel rest
    | _ => .error (refusal tokens)

/-- Reads the value of a pair of a block mapping and the pairs after it. -/
def blockValue (handles : Handles) (key : Tree) :
    Nat → List Token → Except Fault (List (Tree × Tree) × List Token)
  | 0, _ => .error .malformed
  | fuel + 1, tokens =>
    match tokens with
    | .value :: rest => do
      let (value, rest) ← nodeUnless handles .entry [.key, .value, .blockEnd] fuel rest
      let (pairs, rest) ← blockPairs handles fuel rest
      return ((key, value) :: pairs, rest)
    | _ => do
      let (pairs, rest) ← blockPairs handles fuel tokens
      return ((key, empty) :: pairs, rest)

/-- Reads the entries of a sequence in brackets through its end. -/
def flowItems (handles : Handles) (first : Bool) :
    Nat → List Token → Except Fault (List Tree × List Token)
  | 0, _ => .error .malformed
  | fuel + 1, tokens =>
    match first, tokens with
    | _, .flowSequenceEnd :: rest => .ok ([], rest)
    | false, .flowEntry :: rest => flowItem handles fuel rest
    | false, _ => .error (refusal tokens)
    | true, _ => flowItem handles fuel tokens

/-- Reads an entry of a sequence in brackets and the entries after it.  A comma may end the last
one, and a pair may stand for a mapping of one pair. -/
def flowItem (handles : Handles) : Nat → List Token → Except Fault (List Tree × List Token)
  | 0, _ => .error .malformed
  | fuel + 1, tokens =>
    match tokens with
    | .flowSequenceEnd :: rest => .ok ([], rest)
    | .key :: rest => do
      let (key, rest) ← nodeUnless handles .flow [.value, .flowEntry, .flowSequenceEnd] fuel rest
      let (value, rest) ← flowValue handles [.flowEntry, .flowSequenceEnd] fuel rest
      let (items, rest) ← flowItems handles false fuel rest
      return (.mapping ⟨none, none⟩ [(key, value)] :: items, rest)
    | _ => do
      let (item, rest) ← node handles .flow fuel tokens
      let (items, rest) ← flowItems handles false fuel rest
      return (item :: items, rest)

/-- Reads the value of a pair in brackets, which may be absent. -/
def flowValue (handles : Handles) (absent : List Token) :
    Nat → List Token → Except Fault (Tree × List Token)
  | 0, _ => .error .malformed
  | fuel + 1, tokens =>
    match tokens with
    | .value :: rest => nodeUnless handles .flow absent fuel rest
    | _ => .ok (empty, tokens)

/-- Reads the pairs of a mapping in brackets through its end. -/
def flowPairs (handles : Handles) (first : Bool) :
    Nat → List Token → Except Fault (List (Tree × Tree) × List Token)
  | 0, _ => .error .malformed
  | fuel + 1, tokens =>
    match first, tokens with
    | _, .flowMappingEnd :: rest => .ok ([], rest)
    | false, .flowEntry :: rest => flowPair handles fuel rest
    | false, _ => .error (refusal tokens)
    | true, _ => flowPair handles fuel tokens

/-- Reads a pair of a mapping in brackets and the pairs after it. -/
def flowPair (handles : Handles) :
    Nat → List Token → Except Fault (List (Tree × Tree) × List Token)
  | 0, _ => .error .malformed
  | fuel + 1, tokens =>
    match tokens with
    | .flowMappingEnd :: rest => .ok ([], rest)
    | .key :: rest => do
      let (key, rest) ← nodeUnless handles .flow [.value, .flowEntry, .flowMappingEnd] fuel rest
      let (value, rest) ← flowValue handles [.flowEntry, .flowMappingEnd] fuel rest
      let (pairs, rest) ← flowPairs handles false fuel rest
      return ((key, value) :: pairs, rest)
    | _ => do
      let (key, rest) ← node handles .flow fuel tokens
      let (pairs, rest) ← flowPairs handles false fuel rest
      return ((key, empty) :: pairs, rest)

end

/-! ## Documents -/

/-- What the directives before a document say. -/
structure Prologue where
  versioned : Bool
  handles : Handles

/-- Reads the directives before a document.  There may be one version, of the first major number,
and each handle may be given once. -/
def directives (p : Prologue) : List Token → Except Fault (Prologue × List Token)
  | .directive (.version major _) :: rest =>
    if p.versioned || major != 1 then .error .malformed
    else directives { p with versioned := true } rest
  | .directive (.tagHandle handle full) :: rest =>
    if (p.handles.lookup handle).isSome then .error .malformed
    else directives { p with handles := p.handles ++ [(handle, full)] } rest
  | .directive .reserved :: rest => directives p rest
  | rest => .ok (p, rest)

/-- A bound on the recursion over tokens. -/
def depthBound (tokens : List Token) : Nat := 4 * tokens.length + 16

/-- Reads the content of a document whose start has been read. -/
def content (handles : Handles) (tokens : List Token) : Except Fault (Tree × List Token) :=
  match tokens with
  | .directive _ :: _ | .documentStart :: _ | .documentEnd :: _ | .streamEnd :: _ =>
    .ok (empty, tokens)
  | _ => node handles .block (depthBound tokens) tokens

/-- Goes over any number of document ends to the end of the tokens. -/
def close (tree : Tree) : List Token → Except Fault Tree
  | .documentEnd :: rest => close tree rest
  | [.streamEnd] => .ok tree
  | tokens => .error (refusal tokens)

/-- The tree of the document that tokens hold, if any.  More than one document is refused. -/
def document (tokens : List Token) : Except Fault (Option Tree) :=
  match tokens with
  | [.streamEnd] => .ok none
  | .directive _ :: _ | .documentStart :: _ => do
    let (p, rest) ← directives ⟨false, []⟩ tokens
    match rest with
    | .documentStart :: rest =>
      let (tree, rest) ← content (p.handles ++ defaultHandles) rest
      return some (← close tree rest)
    | _ => .error (refusal rest)
  | _ => do
    let (tree, rest) ← node defaultHandles .block (depthBound tokens) tokens
    return some (← close tree rest)

end Tree

end SqlFrontEnd.Yaml
