/-!
# Nodes of YAML

A document is a tree of nodes: scalars, sequences and mappings, each with an anchor and a tag if they are given, and
aliases that stand for the last node before them with their anchor.
-/

namespace GuideSite.Yaml

/-- What is written before the content of a node. -/
structure Properties where
  anchor : Option String := none
  tag : Option String := none
  deriving DecidableEq, Repr

/-- A node. -/
inductive Node
  | reference (name : String)
  | scalar (properties : Properties) (text : String) (plain : Bool)
  | sequence (properties : Properties) (items : List Node)
  | mapping (properties : Properties) (entries : List (Node × Node))
  deriving Repr

/-- The node that nothing stands for. -/
def Node.empty : Node := .scalar {} "" true

end GuideSite.Yaml
