import Std.Data.TreeMap
import DescriptiveLinks.Tree.Basic

/-! # Finding nodes by type

A `KindIndex` lists the nodes of a tree by type. It is built once for a document, so that no query
walks through the tree again. -/

namespace DescriptiveLinks

/-- The ids of the nodes of a tree, by type. -/
structure KindIndex (tree : SyntaxTree) where
  /-- The ids of the nodes of each type, in document order. -/
  byKind : Std.TreeMap String (Array Nat)

namespace KindIndex

/-- Appends the id of a node to those of its type. -/
def add {tree : SyntaxTree} (byKind : Std.TreeMap String (Array Nat)) (n : Node tree) :
    Std.TreeMap String (Array Nat) :=
  byKind.alter n.kind fun ids => some ((ids.getD #[]).push n.id)

/-- The index of a tree. -/
def ofTree (tree : SyntaxTree) : KindIndex tree :=
  ⟨tree.allNodes.foldl add ∅⟩

variable {tree : SyntaxTree}

/-- The ids of the nodes of one type, in document order. -/
def idsOfKind (index : KindIndex tree) (kind : String) : List Nat :=
  (index.byKind.getD kind #[]).toList

/-- Leaves out each number that another one like it follows. -/
def dropRepeats : List Nat → List Nat
  | [] => []
  | id :: ids => if ids.head? = some id then dropRepeats ids else id :: dropRepeats ids

/-- The nodes whose type is among `kinds`, in document order and each of them once. The ids of one
type are in order as they are; those of several types have to be sorted, and ids that come twice
stand side by side then. -/
def nodesOfKinds (index : KindIndex tree) (kinds : List String) : List (Node tree) :=
  let ids := kinds.flatMap index.idsOfKind
  let ids := if 1 < kinds.length then dropRepeats ids.mergeSort else ids
  ids.filterMap tree.node?

end KindIndex

end DescriptiveLinks
