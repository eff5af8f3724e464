import SqlFrontEnd.Yaml.Token

/-!
# Names of nodes

An anchor gives the node that follows it a name, and an alias stands for the node of a name.  No two
nodes of a document have one name, and an alias comes after the beginning of its node.

* `namesAgree`: the test for this, on tokens.
-/

namespace SqlFrontEnd.Yaml

/-- Tests whether a node cannot begin because its first token, behind a tag, denotes nothing. -/
def isCutOff : List Token → Bool
  | .tag _ :: .unreadable _ :: _ | .unreadable _ :: _ => true
  | _ => false

/-- Tests whether the anchors of tokens are new, and their aliases known, after those of the given
names.  An anchor names nothing before its node begins. -/
def namesAgree (names : List String) : List Token → Bool
  | [] => true
  | .alias name :: rest => names.contains name && namesAgree names rest
  | .anchor name :: rest =>
    isCutOff rest || (!names.contains name && namesAgree (name :: names) rest)
  | _ :: rest => namesAgree names rest

end SqlFrontEnd.Yaml
