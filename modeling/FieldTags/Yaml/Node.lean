import FieldTags.Yaml.Token

/-!
# YAML nodes

A document is a tree of scalars, lists and maps, some of which are written as aliases of others. The
anchors of a document are numbered, and the last node with the number of an alias is the one that it
stands for.
-/

namespace FieldTags.Yaml

/-- A scalar. -/
structure Scalar where
  text : String
  style : ScalarStyle
  tag : Option String
deriving DecidableEq

/-- A node of a document. -/
inductive Node
  | scalar (scalar : Scalar)
  | list (items : List Node)
  | map (members : List (Node × Node))
  | anchored (number : Nat) (node : Node)
  | alias (number : Nat)

namespace Node

/-- A plain scalar without text, which nothing at all is. -/
def empty : Node := .scalar ⟨"", .plain, none⟩

mutual

/-- The anchored nodes in the order in which they start. -/
def anchors : Node → List (Nat × Node)
  | .scalar _ => []
  | .list items => anchorsOfItems items
  | .map members => anchorsOfMembers members
  | .anchored number node => (number, node) :: node.anchors
  | .alias _ => []

def anchorsOfItems : List Node → List (Nat × Node)
  | [] => []
  | item :: items => item.anchors ++ anchorsOfItems items

def anchorsOfMembers : List (Node × Node) → List (Nat × Node)
  | [] => []
  | (key, value) :: members => key.anchors ++ value.anchors ++ anchorsOfMembers members

end

end Node

end FieldTags.Yaml
