import DescriptiveLinks.Text.Position
import DescriptiveLinks.Text.Quoted

/-! # Syntax trees

The tree of a parsed document. Its nodes are numbered in document order, a node before its children,
and a node is named by its number, its *id*. The tree keeps the nodes in a table by id and, beside
it, a table of parents that follows from the lists of children. -/

namespace DescriptiveLinks

/-- What a tree keeps for a node. -/
structure NodeData where
  /-- The type of the node, empty if it has none. -/
  kind : String
  /-- The source text of the node. -/
  text : String
  /-- Where the text starts. -/
  start : Position
  /-- The ids of the children, in document order. -/
  children : List Nat
deriving DecidableEq, Repr

/-- The greatest number of nodes of a tree, since ids are numbers of 32 bits. -/
def maxNodes : Nat := Nat.pow 2 32

/-- The message about a tree with more nodes than there are ids; it names the greatest id. -/
def tooLargeMessage : String :=
  s!"tree exceeds {maxNodes - 1} nodes"

/-- The id of the node that is added to a table next, unless there is none left. -/
def nextId? (nodes : Array NodeData) : Option Nat :=
  if nodes.size < maxNodes then some nodes.size else none

/-- Adds the node `child` at the end of the children of the node `id`. -/
def addChild (nodes : Array NodeData) (id child : Nat) : Array NodeData :=
  nodes.modify id fun n => { n with children := n.children ++ [child] }

/-- Records the node `id` as the parent of each of `children`. -/
def recordParent (id : Nat) (children : List Nat) (table : Array (Option Nat)) :
    Array (Option Nat) :=
  children.foldl (fun table child => table.setIfInBounds child (some id)) table

/-- For each node of a table the node that lists it as a child. -/
def parentTable (nodes : Array NodeData) : Array (Option Nat) :=
  nodes.toList.zipIdx.foldl (fun table (node, id) => recordParent id node.children table)
    (Array.replicate nodes.size none)

/-- A **syntax tree**: its nodes by id. -/
structure SyntaxTree where
  /-- The nodes by id. -/
  nodes : Array NodeData
  /-- The parents by id. -/
  parents : Array (Option Nat)
  /-- The parents are those that the lists of children give. -/
  parents_eq : parents = parentTable nodes
deriving DecidableEq

/-- A node of a tree, given by its id. -/
structure Node (tree : SyntaxTree) where
  /-- The id. -/
  id : Nat
  /-- The tree has a node of this id. -/
  id_lt : id < tree.nodes.size
deriving DecidableEq

namespace SyntaxTree

/-- The tree with the given nodes. -/
def ofNodes (nodes : Array NodeData) : SyntaxTree where
  nodes := nodes
  parents := parentTable nodes
  parents_eq := rfl

@[simp] theorem nodes_ofNodes (nodes : Array NodeData) : (ofNodes nodes).nodes = nodes := rfl

/-- Two trees with the same nodes are the same. -/
@[ext] theorem ext {s t : SyntaxTree} (h : s.nodes = t.nodes) : s = t := by
  obtain ⟨nodes, _, rfl⟩ := s
  obtain ⟨_, _, rfl⟩ := t
  cases h
  rfl

variable (tree : SyntaxTree)

/-- The number of nodes. -/
def size : Nat :=
  tree.nodes.size

/-- Whether there is no node. -/
def isEmpty : Bool :=
  tree.nodes.isEmpty

/-- The node with a given id. -/
def node? (id : Nat) : Option (Node tree) :=
  if h : id < tree.nodes.size then some ⟨id, h⟩ else none

/-- All nodes in document order. -/
def allNodes : List (Node tree) :=
  List.ofFn fun i : Fin tree.nodes.size => ⟨i, i.isLt⟩

end SyntaxTree

namespace Node

variable {tree : SyntaxTree} (n : Node tree)

/-- What the tree keeps for the node. -/
def data : NodeData :=
  have := n.id_lt
  tree.nodes[n.id]

/-- The type of the node, empty if it has none. -/
def kind : String := n.data.kind

/-- The source text of the node. -/
def text : String := n.data.text

/-- Where the text starts. -/
def start : Position := n.data.start

/-- The parent, which the topmost nodes lack. -/
def parent? : Option (Node tree) := do
  let id ← (← tree.parents[n.id]?)
  tree.node? id

/-- The children in document order. -/
def children : List (Node tree) :=
  n.data.children.filterMap tree.node?

/-- A description of the node for developers. -/
def describe : String :=
  let start := s!"Position \x7b line: {n.start.line}, column: {n.start.column} \x7d"
  let kind := Text.quoted n.kind
  let text := Text.quoted n.text
  s!"Node \x7b id: NodeId({n.id}), kind: {kind}, start: {start}, text: {text} \x7d"

end Node

end DescriptiveLinks
