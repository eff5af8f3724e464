import Mathlib
import SqlFrontEnd.Yaml.Tree

/-!
# Why no tree is found

Reading a tree goes through the tokens from the front.  It ends with the tokens that it has not
come to, or it is refused; and it is refused as denoting nothing only at a token that says so.  No
function of the grammar finds such a fault by itself, so it is enough that each of them passes on
what the others say.

* `Answers` — what is said of every result, and how it is put together.
* `AllAnswer` — the functions of the grammar with one bound on their recursion; `allAnswer` — all of
  them answer so, by induction on the bound.
* **`unreadable_mem_of_document`** — the faults with which documents are refused.
-/

namespace SqlFrontEnd.Yaml.Tree

/-! ## Answers -/

/-- A result leaves some of the last tokens, or is refused.  It is refused as denoting nothing at
such a token. -/
def Answers {α : Type} (tokens : List Token) : Except Fault (α × List Token) → Prop
  | .ok (_, rest) => rest <:+ tokens
  | .error (.scalar fault) => .unreadable fault ∈ tokens
  | .error .malformed => True

variable {α β : Type} {tokens rest : List Token} {handles : Handles} {fuel : ℕ}

lemma answers_ok (a : α) (h : rest <:+ tokens) : Answers tokens (.ok (a, rest)) := h

lemma answers_malformed : Answers tokens (.error .malformed : Except Fault (α × List Token)) :=
  trivial

lemma answers_refusal :
    Answers tokens (.error (refusal tokens) : Except Fault (α × List Token)) := by
  unfold refusal
  split
  · exact List.mem_cons_self
  · exact trivial

/-- What is said of the last tokens is said of all. -/
lemma Answers.mono {r : Except Fault (α × List Token)} (h : Answers rest r)
    (hrest : rest <:+ tokens) : Answers tokens r := by
  rcases r with (_ | fault) | ⟨a, left⟩
  · exact trivial
  · exact hrest.mem h
  · exact List.IsSuffix.trans h hrest

lemma Answers.cons {r : Except Fault (α × List Token)} (t : Token) (h : Answers tokens r) :
    Answers (t :: tokens) r :=
  h.mono (List.suffix_cons t tokens)

/-- Reading on. -/
lemma Answers.bind {r : Except Fault (α × List Token)} (h : Answers tokens r)
    {f : α × List Token → Except Fault (β × List Token)}
    (hf : ∀ a rest, Answers rest (f (a, rest))) : Answers tokens (r >>= f) := by
  rcases r with (_ | fault) | ⟨a, left⟩
  · exact trivial
  · exact h
  · exact (hf a left).mono h

/-! ## The functions of the grammar -/

lemma answers_propertiesOf (anchor : Option String) (t : WrittenTag) :
    Answers tokens (propertiesOf handles anchor t tokens) := by
  rw [propertiesOf]
  split
  · exact answers_ok _ (List.suffix_refl _)
  · split
    · exact answers_malformed
    · exact answers_refusal

lemma answers_properties : Answers tokens (properties handles tokens) := by
  unfold properties
  split
  · exact (answers_propertiesOf _ _).cons _ |>.cons _
  · exact answers_ok _ (List.suffix_cons _ _)
  · exact (answers_propertiesOf _ _).cons _ |>.cons _
  · exact (answers_propertiesOf _ _).cons _
  · exact answers_ok _ (List.suffix_refl _)

/-- The functions of the grammar with a bound on their recursion. -/
structure AllAnswer (handles : Handles) (fuel : ℕ) : Prop where
  node (context : Context) (tokens : List Token) :
    Answers tokens (node handles context fuel tokens)
  blockNode (context : Context) (p : Properties) (tokens : List Token) :
    Answers tokens (blockNode handles context p fuel tokens)
  nodeUnless (context : Context) (absent tokens : List Token) :
    Answers tokens (nodeUnless handles context absent fuel tokens)
  blockItems (tokens : List Token) : Answers tokens (blockItems handles fuel tokens)
  plainItems (tokens : List Token) : Answers tokens (plainItems handles fuel tokens)
  blockPairs (tokens : List Token) : Answers tokens (blockPairs handles fuel tokens)
  blockValue (key : Tree) (tokens : List Token) :
    Answers tokens (blockValue handles key fuel tokens)
  flowItems (first : Bool) (tokens : List Token) :
    Answers tokens (flowItems handles first fuel tokens)
  flowItem (tokens : List Token) : Answers tokens (flowItem handles fuel tokens)
  flowValue (absent tokens : List Token) :
    Answers tokens (flowValue handles absent fuel tokens)
  flowPairs (first : Bool) (tokens : List Token) :
    Answers tokens (flowPairs handles first fuel tokens)
  flowPair (tokens : List Token) : Answers tokens (flowPair handles fuel tokens)

namespace AllAnswer

lemma zero (handles : Handles) : AllAnswer handles 0 := by
  constructor <;> intros <;> exact trivial

lemma succ_node (h : AllAnswer handles fuel) (context : Context) (tokens : List Token) :
    Answers tokens (Tree.node handles context (fuel + 1) tokens) := by
  unfold Tree.node
  split
  · exact answers_ok _ (List.suffix_cons _ _)
  · refine answers_properties.bind fun p rest => ?_
    dsimp only
    split
    · exact answers_ok _ (List.suffix_cons _ _)
    · refine ((h.flowItems _ _).bind fun items rest => ?_).cons _
      exact answers_ok _ (List.suffix_refl _)
    · refine ((h.flowPairs _ _).bind fun pairs rest => ?_).cons _
      exact answers_ok _ (List.suffix_refl _)
    · exact h.blockNode _ _ _

lemma succ_blockNode (h : AllAnswer handles fuel) (context : Context) (p : Properties)
    (tokens : List Token) :
    Answers tokens (Tree.blockNode handles context p (fuel + 1) tokens) := by
  unfold Tree.blockNode
  split
  · exact (h.plainItems _).bind fun items rest => answers_ok _ (List.suffix_refl _)
  · refine ((h.blockItems _).bind fun items rest => ?_).cons _
    exact answers_ok _ (List.suffix_refl _)
  · refine ((h.blockItems _).bind fun items rest => ?_).cons _
    exact answers_ok _ (List.suffix_refl _)
  · refine ((h.blockPairs _).bind fun pairs rest => ?_).cons _
    exact answers_ok _ (List.suffix_refl _)
  · refine ((h.blockPairs _).bind fun pairs rest => ?_).cons _
    exact answers_ok _ (List.suffix_refl _)
  · split
    · exact answers_ok _ (List.suffix_refl _)
    · exact answers_refusal

lemma succ_nodeUnless (h : AllAnswer handles fuel) (context : Context)
    (absent tokens : List Token) :
    Answers tokens (Tree.nodeUnless handles context absent (fuel + 1) tokens) := by
  unfold Tree.nodeUnless
  split
  · exact answers_malformed
  · split
    · exact answers_ok _ (List.suffix_refl _)
    · exact h.node _ _

lemma succ_blockItems (h : AllAnswer handles fuel) (tokens : List Token) :
    Answers tokens (Tree.blockItems handles (fuel + 1) tokens) := by
  unfold Tree.blockItems
  split
  · exact answers_ok _ (List.suffix_cons _ _)
  · refine ((h.nodeUnless _ _ _).bind fun item rest => ?_).cons _
    exact (h.blockItems _).bind fun items rest => answers_ok _ (List.suffix_refl _)
  · exact answers_refusal

lemma succ_plainItems (h : AllAnswer handles fuel) (tokens : List Token) :
    Answers tokens (Tree.plainItems handles (fuel + 1) tokens) := by
  unfold Tree.plainItems
  split
  · refine ((h.nodeUnless _ _ _).bind fun item rest => ?_).cons _
    exact (h.plainItems _).bind fun items rest => answers_ok _ (List.suffix_refl _)
  · exact answers_ok _ (List.suffix_refl _)

lemma succ_blockPairs (h : AllAnswer handles fuel) (tokens : List Token) :
    Answers tokens (Tree.blockPairs handles (fuel + 1) tokens) := by
  unfold Tree.blockPairs
  split
  · exact answers_ok _ (List.suffix_cons _ _)
  · exact ((h.nodeUnless _ _ _).bind fun key rest => h.blockValue _ _).cons _
  · exact answers_refusal

lemma succ_blockValue (h : AllAnswer handles fuel) (key : Tree) (tokens : List Token) :
    Answers tokens (Tree.blockValue handles key (fuel + 1) tokens) := by
  unfold Tree.blockValue
  split
  · refine ((h.nodeUnless _ _ _).bind fun value rest => ?_).cons _
    exact (h.blockPairs _).bind fun pairs rest => answers_ok _ (List.suffix_refl _)
  · exact (h.blockPairs _).bind fun pairs rest => answers_ok _ (List.suffix_refl _)

lemma succ_flowItems (h : AllAnswer handles fuel) (first : Bool) (tokens : List Token) :
    Answers tokens (Tree.flowItems handles first (fuel + 1) tokens) := by
  unfold Tree.flowItems
  split
  · exact answers_ok _ (List.suffix_cons _ _)
  · exact (h.flowItem _).cons _
  · exact answers_refusal
  · exact h.flowItem _

lemma succ_flowItem (h : AllAnswer handles fuel) (tokens : List Token) :
    Answers tokens (Tree.flowItem handles (fuel + 1) tokens) := by
  unfold Tree.flowItem
  split
  · exact answers_ok _ (List.suffix_cons _ _)
  · refine ((h.nodeUnless _ _ _).bind fun key rest => ?_).cons _
    refine (h.flowValue _ _).bind fun value rest => ?_
    exact (h.flowItems _ _).bind fun items rest => answers_ok _ (List.suffix_refl _)
  · refine (h.node _ _).bind fun item rest => ?_
    exact (h.flowItems _ _).bind fun items rest => answers_ok _ (List.suffix_refl _)

lemma succ_flowValue (h : AllAnswer handles fuel) (absent tokens : List Token) :
    Answers tokens (Tree.flowValue handles absent (fuel + 1) tokens) := by
  unfold Tree.flowValue
  split
  · exact (h.nodeUnless _ _ _).cons _
  · exact answers_ok _ (List.suffix_refl _)

lemma succ_flowPairs (h : AllAnswer handles fuel) (first : Bool) (tokens : List Token) :
    Answers tokens (Tree.flowPairs handles first (fuel + 1) tokens) := by
  unfold Tree.flowPairs
  split
  · exact answers_ok _ (List.suffix_cons _ _)
  · exact (h.flowPair _).cons _
  · exact answers_refusal
  · exact h.flowPair _

lemma succ_flowPair (h : AllAnswer handles fuel) (tokens : List Token) :
    Answers tokens (Tree.flowPair handles (fuel + 1) tokens) := by
  unfold Tree.flowPair
  split
  · exact answers_ok _ (List.suffix_cons _ _)
  · refine ((h.nodeUnless _ _ _).bind fun key rest => ?_).cons _
    refine (h.flowValue _ _).bind fun value rest => ?_
    exact (h.flowPairs _ _).bind fun pairs rest => answers_ok _ (List.suffix_refl _)
  · refine (h.node _ _).bind fun key rest => ?_
    exact (h.flowPairs _ _).bind fun pairs rest => answers_ok _ (List.suffix_refl _)

end AllAnswer

/-- **All functions of the grammar answer so**, whatever the bound on their recursion. -/
lemma allAnswer (handles : Handles) (fuel : ℕ) : AllAnswer handles fuel := by
  induction fuel with
  | zero => exact .zero handles
  | succ fuel ih =>
      exact
        { node := ih.succ_node
          blockNode := ih.succ_blockNode
          nodeUnless := ih.succ_nodeUnless
          blockItems := ih.succ_blockItems
          plainItems := ih.succ_plainItems
          blockPairs := ih.succ_blockPairs
          blockValue := ih.succ_blockValue
          flowItems := ih.succ_flowItems
          flowItem := ih.succ_flowItem
          flowValue := ih.succ_flowValue
          flowPairs := ih.succ_flowPairs
          flowPair := ih.succ_flowPair }

/-! ## Documents -/

lemma answers_directives (p : Prologue) (tokens : List Token) :
    Answers tokens (directives p tokens) := by
  fun_induction directives p tokens with
  | case1 => exact answers_malformed
  | case2 _ _ _ _ _ ih => exact ih.cons _
  | case3 => exact answers_malformed
  | case4 _ _ _ _ _ ih => exact ih.cons _
  | case5 _ _ ih => exact ih.cons _
  | case6 => exact answers_ok _ (List.suffix_refl _)

lemma answers_content (handles : Handles) (tokens : List Token) :
    Answers tokens (content handles tokens) := by
  unfold content
  split
  all_goals first
    | exact answers_ok _ (List.suffix_refl _)
    | exact (allAnswer handles _).node _ _

/-- Where no tokens are left over, a result is refused in the same way. -/
def Ends {α : Type} (tokens : List Token) : Except Fault α → Prop
  | .error (.scalar fault) => .unreadable fault ∈ tokens
  | _ => True

lemma ends_refusal : Ends tokens (.error (refusal tokens) : Except Fault α) := by
  unfold refusal
  split
  · exact List.mem_cons_self
  · exact trivial

lemma Ends.mono {r : Except Fault α} (h : Ends rest r) (hrest : rest <:+ tokens) :
    Ends tokens r := by
  rcases r with (_ | fault) | a
  · exact trivial
  · exact hrest.mem h
  · exact trivial

/-- Reading up to the end. -/
lemma Answers.ends_bind {r : Except Fault (α × List Token)} (h : Answers tokens r)
    {f : α × List Token → Except Fault β} (hf : ∀ a rest, Ends rest (f (a, rest))) :
    Ends tokens (r >>= f) := by
  rcases r with (_ | fault) | ⟨a, left⟩
  · exact trivial
  · exact h
  · exact (hf a left).mono h

lemma ends_close (tree : Tree) (tokens : List Token) : Ends tokens (close tree tokens) := by
  fun_induction close tree tokens with
  | case1 rest ih => exact ih.mono (List.suffix_cons _ _)
  | case2 => exact trivial
  | case3 => exact ends_refusal

lemma ends_document (tokens : List Token) : Ends tokens (document tokens) := by
  have hclose (tree : Tree) (rest : List Token) :
      Ends rest (do return some (← close tree rest)) := by
    have h := ends_close tree rest
    rcases hclose : close tree rest with (_ | fault) | closed
    · exact trivial
    · rwa [hclose] at h
    · exact trivial
  unfold document
  split
  · exact trivial
  case h_2 | h_3 =>
    refine (answers_directives _ _).ends_bind fun p rest => ?_
    dsimp only
    split
    · exact ((answers_content _ _).ends_bind hclose).mono (List.suffix_cons _ _)
    · exact ends_refusal
  · exact ((allAnswer _ _).node _ _).ends_bind hclose

/-- **A document is refused as denoting nothing** only at a token that says so. -/
theorem unreadable_mem_of_document {fault : ScalarFault}
    (h : document tokens = .error (.scalar fault)) : .unreadable fault ∈ tokens := by
  have hends := ends_document tokens
  rwa [h] at hends

end SqlFrontEnd.Yaml.Tree
