import DescriptiveLinks.Tree.Basic

/-! # Token trees

The nested form of a syntax tree, as parsers hand it over: every token holds its children. To make a
`SyntaxTree` of a forest, the tokens are put one after the other at the end of a table of nodes that
grows. A token takes the next id and goes into the table without children; then each of its children
is put there with all that is below it, and only after that its id is noted with the token. -/

namespace DescriptiveLinks

/-- A **token**: a node that holds its children. -/
structure Token where
  /-- The type of the node, if it has one. -/
  kind : Option String
  /-- The source text of the node. -/
  text : String
  /-- Where the text starts. -/
  start : Position
  /-- The children in document order. -/
  children : List Token

namespace Token

mutual

/-- Puts a token and those below it at the end of a table: its id, and the table after that. There
is none if the ids run out. -/
def push (nodes : Array NodeData) : Token → Option (Nat × Array NodeData)
  | ⟨kind, text, start, children⟩ => do
    let id ← nextId? nodes
    let nodes ← pushChildren id (nodes.push ⟨kind.getD "", text, start, []⟩) children
    return (id, nodes)

/-- Puts tokens at the end of a table and notes each as a child of the node `id`. -/
def pushChildren (id : Nat) (nodes : Array NodeData) : List Token → Option (Array NodeData)
  | [] => some nodes
  | t :: ts => do
    let (child, nodes) ← t.push nodes
    pushChildren id (addChild nodes id child) ts

end

end Token

/-- The tree of a forest of tokens, if there are ids for all of them. -/
def SyntaxTree.load? (tokens : List Token) : Option SyntaxTree := do
  let nodes ← tokens.foldlM (fun nodes t => (t.push nodes).map Prod.snd) #[]
  return ofNodes nodes

end DescriptiveLinks
