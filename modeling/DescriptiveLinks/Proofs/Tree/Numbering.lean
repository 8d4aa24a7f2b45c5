import Mathlib.Data.List.Nodup
import DescriptiveLinks.Proofs.Text.Coordinates
import DescriptiveLinks.Proofs.Tree.Ancestors
import DescriptiveLinks.Proofs.Tree.Produced
import DescriptiveLinks.Proofs.Tree.Spans

/-! # Document order

A tree numbers its nodes in document order, whichever way it was made: every node comes before its
children, and everything below a child comes before the next one. In a tree that has been built over
a source this is also the order of the places where the nodes start.

* `SyntaxTree.Numbered` says how ids, children and parents fit together then.
* `SyntaxTree.Produced.exists_numbered` says that they do in the tree of any document.
* `SyntaxTree.lex_start_le_of_finish` says that the nodes of a built tree start in their order. -/

namespace DescriptiveLinks

/-- A tree is **numbered in document order**, where `below` counts the nodes below each node. -/
structure SyntaxTree.Numbered (tree : SyntaxTree) (below : Node tree → Nat) : Prop where
  /-- Every id that a node lists as a child is that of a node. -/
  map_id_children (n : Node tree) : n.children.map Node.id = n.data.children
  /-- The parent of a node is the node that lists it. -/
  parent?_eq_some_iff {n p : Node tree} : n.parent? = some p ↔ n ∈ p.children
  /-- No node is listed twice, be it by the same node or by another. -/
  nodup_children : (tree.allNodes.flatMap Node.children).Nodup
  /-- Children are listed in the order of their ids. -/
  pairwise_children (n : Node tree) : n.children.Pairwise fun c d => c.id < d.id
  /-- Children have greater ids than their parent. -/
  id_lt_of_mem_children {n c : Node tree} (h : c ∈ n.children) : n.id < c.id
  /-- The nodes below a node are those with the ids that come next. -/
  isAncestor_iff {n d : Node tree} : n.IsAncestor d ↔ n.id < d.id ∧ d.id ≤ n.id + below n
  /-- All these ids are ids of nodes. -/
  id_add_below_lt (n : Node tree) : n.id + below n < tree.size
  /-- The first child has the id right after that of its parent. -/
  id_of_head?_children {n c : Node tree} (h : n.children.head? = some c) : c.id = n.id + 1
  /-- Each other child has the id right after those of the nodes below the child before. -/
  isChain_children (n : Node tree) : n.children.IsChain fun c d => d.id = c.id + below c + 1
  /-- Going to the parent again and again leads to a node without one. -/
  exists_climb_eq_root (n : Node tree) :
    ∃ steps ≤ n.id, ∃ root, n.climb steps = some root ∧ root.parent? = none

namespace SyntaxTree

/-- No node is listed twice as a child. -/
theorem IsForest.nodup_children {tree : SyntaxTree} (h : tree.IsForest) :
    (tree.allNodes.flatMap Node.children).Nodup := by
  rw [List.nodup_flatMap]
  constructor
  · intro n _
    refine (h.pairwise_children n).imp fun {c d} hlt heq => ?_
    rw [heq] at hlt
    exact Nat.lt_irrefl _ hlt
  · -- A node that two nodes list has both as its parent, and has only one.
    refine tree.pairwise_allNodes.imp fun {m n} hlt => ?_
    intro c hm hn
    rw [← h.parent?_eq_some_iff] at hm hn
    rw [Option.some_inj.mp (hm.symm.trans hn)] at hlt
    exact Nat.lt_irrefl _ hlt

/-- The tree of a forest is numbered in document order. -/
theorem numbered_ofForest {α : Type} (view : α → NodeLabel) (F : Forest α) :
    (ofForest view F).Numbered fun n => n.entry.children.size where
  map_id_children n := by
    rw [n.map_id_children, Node.data_eq]
    rfl
  parent?_eq_some_iff := (isForest_ofForest view F).parent?_eq_some_iff
  nodup_children := (isForest_ofForest view F).nodup_children
  pairwise_children := (isForest_ofForest view F).pairwise_children
  id_lt_of_mem_children h :=
    (Node.bounds_of_parent? ((isForest_ofForest view F).parent?_eq_some_iff.mpr h)).1
  isAncestor_iff {n d} := by
    rw [Node.isAncestor_iff, Forest.Entry.last, Node.id_entry]
  id_add_below_lt n := by
    have hlast := Forest.last_lt n.entry_mem
    rw [Forest.Entry.last, Node.id_entry, Nat.zero_add] at hlast
    simpa [size, ofForest] using hlast
  id_of_head?_children := Node.id_of_head?_children
  isChain_children n := by
    have hchain := n.isChain_children
    simp only [Forest.Entry.last, Node.id_entry] at hchain
    exact hchain
  exists_climb_eq_root := Node.exists_climb_eq_root

/-- **Document order**: the tree of a document is numbered in it, be it loaded or built. -/
theorem Produced.exists_numbered {tree : SyntaxTree} (h : tree.Produced) :
    ∃ below : Node tree → Nat, tree.Numbered below := by
  obtain ⟨α, view, F, rfl⟩ := h.isForest
  exact ⟨_, numbered_ofForest view F⟩

/-- A link with a label and a resource, after a call that is refused. -/
theorem Produced.exists_numbered_link :
    ∃ tree : SyntaxTree, tree.Produced ∧ tree.nodes.toList.map NodeData.children =
        [[1, 3], [2], [], []] ∧
      ∃ below : Node tree → Nat, tree.Numbered below := by
  have h : ((Builder.ofSource "[a](b)").run [.openNode "link" 0, .openNode "label" 0,
      .token "labelText" ⟨1, 2⟩, .closeNode 1, .closeNode 3, .token "resource" ⟨3, 6⟩,
      .closeNode 6]).2.finish = .ok _ := rfl
  exact ⟨_, .built h, rfl, Produced.exists_numbered (.built h)⟩

/-! ## Places in the source -/

namespace CoveredBy

variable {source : String} {tree : SyntaxTree} {span : Node tree → Span} {m n : Node tree}

/-- Of two nodes the later one starts inside the earlier, or where the earlier ends or later. -/
theorem start_le_start (h : tree.CoveredBy source span) (hlt : m.id < n.id) :
    (span m).start ≤ (span n).start := by
  obtain ⟨-, hinside, -⟩ | hafter := h.nested_or_after hlt
  · exact hinside
  · exact (h.start_le_stop m).trans hafter

/-- Positions of nodes are ordered as the offsets at which the nodes start, because nodes start
between characters. -/
theorem lex_start_le_iff (h : tree.CoveredBy source span) :
    m.start.lex ≤ n.start.lex ↔ (span m).start ≤ (span n).start := by
  rw [h.start_eq m, h.start_eq n]
  exact LineIndex.lex_position_le_iff (h.isBoundary_start m) (h.isBoundary_start n)

end CoveredBy

/-- **Document order is the order of positions**: whatever the calls that have built a tree, of two
nodes the one with the smaller id starts on an earlier line, or on the same line in the same column
or an earlier one. Two of them start at one position only if their spans start at one offset. -/
theorem lex_start_le_of_finish {source : String} {calls : List Builder.Call} {tree : SyntaxTree}
    (h : ((Builder.ofSource source).run calls).2.finish = .ok tree) :
    (∀ m n : Node tree, m.id < n.id → m.start.lex ≤ n.start.lex) ∧
    ∃ span : Node tree → Span, tree.CoveredBy source span ∧
      ∀ m n : Node tree, m.start.lex ≤ n.start.lex ↔ (span m).start ≤ (span n).start := by
  obtain ⟨F, rfl, hfits, -⟩ := Builder.exists_forest_of_finish h
  have hspan := hfits.coveredBy
  refine ⟨fun m n hlt => ?_, Node.span, hspan, fun m n => hspan.lex_start_le_iff⟩
  exact hspan.lex_start_le_iff.mpr (hspan.start_le_start hlt)

/-- A character of two bytes and a link on the next line, whose label is closed only at the second
attempt: the five nodes start at three places. -/
theorem lex_start_le_of_two_lines :
    ∃ tree : SyntaxTree, tree.nodes.toList.map NodeData.start =
        [⟨1, 1⟩, ⟨1, 1⟩, ⟨2, 1⟩, ⟨2, 1⟩, ⟨2, 2⟩] ∧
      ∀ m n : Node tree, m.id < n.id → m.start.lex ≤ n.start.lex := by
  have h : ((Builder.ofSource "é\n[a](b)").run [.openNode "paragraph" 0, .token "text" ⟨0, 2⟩,
      .openNode "link" 3, .openNode "label" 3, .token "labelText" ⟨4, 5⟩, .closeNode 4,
      .closeNode 6, .closeNode 9, .closeNode 9]).2.finish = .ok _ := rfl
  exact ⟨_, by decide +kernel, (lex_start_le_of_finish h).1⟩

end SyntaxTree

end DescriptiveLinks
