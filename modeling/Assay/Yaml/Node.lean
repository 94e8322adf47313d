import Assay.Yaml.Tag

/-!
# Graphs of nodes

A document is made of nodes: scalars, sequences and mappings, each with its tag. An alias is not a
copy but the node itself, so nodes form a graph, in which a collection can even be a part of itself.
A node is known by its id, the number of nodes that were there before it.
-/

namespace Assay.Yaml

/-- What stands for a node. -/
abbrev NodeId := Nat

/-- What a node holds. -/
inductive Content where
  | scalar (text : CodeText)
  | sequence (items : List NodeId)
  | mapping (entries : List (NodeId × NodeId))
  deriving Repr

/-- A node of a document. -/
structure Node where
  tag : Tag
  content : Content
  deriving Repr

/-- The node of what is left out. -/
def Node.empty : Node := ⟨.null, .scalar []⟩

instance : Inhabited Node := ⟨Node.empty⟩

/-- The nodes of a document, each at the index that is its id. -/
structure Graph where
  nodes : Array Node

namespace Graph

/-- A graph without nodes. -/
def empty : Graph := ⟨#[]⟩

/-- The number of nodes. -/
def size (g : Graph) : Nat := g.nodes.size

/-- The node with an id. -/
def get (g : Graph) (id : NodeId) : Node := g.nodes.getD id Node.empty

/-- The graph with one more node. -/
def add (n : Node) (g : Graph) : Graph := ⟨g.nodes.push n⟩

/-- The graph with what a node holds replaced. -/
def fill (id : NodeId) (content : Content) (g : Graph) : Graph :=
  ⟨g.nodes.modify id fun n => { n with content := content }⟩

/-- The graph with the tag of a node replaced. -/
def retag (id : NodeId) (tag : Tag) (g : Graph) : Graph :=
  ⟨g.nodes.modify id fun n => { n with tag := tag }⟩

/-- The tag of a node. -/
def tag (g : Graph) (id : NodeId) : Tag := (g.get id).tag

/-- The entries of a node, if it is a mapping. -/
def entries? (g : Graph) (id : NodeId) : Option (List (NodeId × NodeId)) :=
  match (g.get id).content with
  | .mapping entries => some entries
  | _ => none

end Graph

end Assay.Yaml
