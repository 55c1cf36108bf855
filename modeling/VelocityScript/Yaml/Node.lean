/-!
# YAML nodes

A document is a tree of scalars, sequences and mappings.  A node may carry an
anchor, and other places may refer to it; a node may even refer to itself, so
references are followed only where someone looks.
-/

namespace VelocityScript.Yaml

/-- How a scalar is written. -/
inductive ScalarStyle where
  | plain
  | quoted
  | literal
  | folded
  deriving DecidableEq

/-- A scalar: how it is written, the tag that it carries, and its text. -/
structure Scalar where
  style : ScalarStyle
  tag : Option String := none
  text : String
  deriving DecidableEq

/-- A node of a document.  References are numbered like the anchors. -/
inductive Node where
  | scalar (scalar : Scalar)
  | sequence (items : List Node)
  | mapping (entries : List (Node × Node))
  | reference (number : Nat)

/-- The node of a place where nothing is written. -/
def Node.empty : Node :=
  .scalar { style := .plain, text := "" }

/-- The tree of a document and its nodes with anchors, by number. -/
structure Document where
  root : Node
  anchors : List (Nat × Node) := []

/-- The node that a node stands for.  What a reference names is no reference,
so there is one step to take at most. -/
def Document.resolve (document : Document) : Node → Node
  | .reference number => (document.anchors.lookup number).getD .empty
  | node => node

end VelocityScript.Yaml
