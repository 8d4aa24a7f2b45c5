import Mathlib.Data.List.Sort
import DescriptiveLinks.Proofs.Tree.Table
import DescriptiveLinks.Tree.KindIndex

/-! # Queries by type

The index of a tree lists under each type the nodes that a walk through the tree would find. A query
for one type gives them as they are listed; a query for several types has to bring the lists of all
of them into one order.

* `KindIndex.pairwise_dropRepeats` says that numbers in order go up strictly without repetitions.
* `KindIndex.dropRepeats_mergeSort_flatMap` says what comes of bringing the lists into order.
* `KindIndex.nodesOfKinds_eq_scan` says that a query finds what a walk finds. -/

namespace DescriptiveLinks

namespace KindIndex

variable {tree : SyntaxTree}

/-- Indexing nodes appends to the ids of a type those of the nodes of this type. -/
theorem getD_foldl_add (byKind : Std.TreeMap String (Array Nat)) (nodes : List (Node tree))
    (kind : String) :
    ((nodes.foldl add byKind).getD kind #[]).toList
      = (byKind.getD kind #[]).toList ++ (nodes.filter fun n => n.kind = kind).map Node.id := by
  induction nodes generalizing byKind with
  | nil => simp
  | cons n ns ih =>
    rw [List.foldl_cons, ih, add, Std.TreeMap.getD_alter]
    by_cases h : n.kind = kind
    · simp [h, Std.TreeMap.getD_eq_getD_getElem?]
    · simp [h]

/-- **The ids under a type** are those of the nodes of this type, in document order. -/
theorem idsOfKind_ofTree (tree : SyntaxTree) (kind : String) :
    (ofTree tree).idsOfKind kind = (tree.allNodes.filter fun n => n.kind = kind).map Node.id := by
  rw [idsOfKind, ofTree, getD_foldl_add]
  simp

theorem filterMap_node?_map_id (nodes : List (Node tree)) :
    (nodes.map Node.id).filterMap tree.node? = nodes := by
  induction nodes with
  | nil => rfl
  | cons n ns ih =>
    rw [List.map_cons, List.filterMap_cons_some (Node.node?_eq_some_iff.mpr rfl), ih]

/-- A query for one type needs no merging. -/
theorem nodesOfKinds_singleton (tree : SyntaxTree) (kind : String) :
    (ofTree tree).nodesOfKinds [kind] = tree.allNodes.filter fun n => n.kind = kind := by
  have hids : [kind].flatMap (ofTree tree).idsOfKind = (ofTree tree).idsOfKind kind := by simp
  rw [nodesOfKinds, hids, idsOfKind_ofTree]
  exact filterMap_node?_map_id _

/-! ## Several types -/

theorem mem_dropRepeats {id : Nat} {ids : List Nat} : id ∈ dropRepeats ids ↔ id ∈ ids := by
  induction ids with
  | nil => rfl
  | cons i ids ih =>
    rw [dropRepeats]
    split
    · next hhead =>
      rw [ih, List.mem_cons]
      exact (or_iff_right_of_imp fun h => h ▸ List.mem_of_mem_head? hhead).symm
    · rw [List.mem_cons, List.mem_cons, ih]

/-- Numbers in order go up strictly once repetitions are left out. -/
theorem pairwise_dropRepeats {ids : List Nat} (h : ids.Pairwise (· ≤ ·)) :
    (dropRepeats ids).Pairwise (· < ·) := by
  induction h with
  | nil => exact .nil
  | @cons i ids hle hids ih =>
    rw [dropRepeats]
    split
    · exact ih
    · next hhead =>
      refine .cons (fun j hj => ?_) ih
      have hj := mem_dropRepeats.mp hj
      -- The next number is another one, and the rest comes after it.
      cases hids with
      | nil => cases hj
      | @cons k rest hrest _ =>
        have hik := hle k List.mem_cons_self
        have hne : k ≠ i := fun heq => hhead (congrArg some heq)
        rcases List.mem_cons.mp hj with rfl | hj
        · omega
        · have := hrest j hj
          omega

/-- **Merging the ids of several types**: an id that is listed more than once, because its type is,
is left once, and the ids are in the order of the document. -/
theorem dropRepeats_mergeSort_flatMap (tree : SyntaxTree) (kinds : List String) :
    dropRepeats (kinds.flatMap (ofTree tree).idsOfKind).mergeSort
      = (tree.allNodes.filter fun n => n.kind ∈ kinds).map Node.id := by
  -- Both lists go up strictly, so it is enough that they have the same members.
  have hmerged := pairwise_dropRepeats
    (List.pairwise_mergeSort' (· ≤ ·) (kinds.flatMap (ofTree tree).idsOfKind))
  have hscanned : ((tree.allNodes.filter fun n => n.kind ∈ kinds).map Node.id).Pairwise (· < ·) :=
    List.pairwise_map.mpr (tree.pairwise_allNodes.filter _)
  refine hmerged.eq_of_mem_iff hscanned fun id => ?_
  rw [mem_dropRepeats, List.mem_mergeSort, List.mem_flatMap]
  simp only [idsOfKind_ofTree, List.mem_map, List.mem_filter, SyntaxTree.mem_allNodes, true_and,
    decide_eq_true_eq]
  constructor
  · rintro ⟨kind, hkind, n, rfl, hid⟩
    exact ⟨n, hkind, hid⟩
  · rintro ⟨n, hkind, hid⟩
    exact ⟨n.kind, hkind, n, rfl, hid⟩

theorem nodesOfKinds_ofTree (tree : SyntaxTree) (kinds : List String) :
    (ofTree tree).nodesOfKinds kinds = tree.allNodes.filter fun n => n.kind ∈ kinds := by
  match kinds with
  | [] => simp [nodesOfKinds]
  | [kind] => simp [nodesOfKinds_singleton]
  | kind :: other :: rest =>
    have hseveral : 1 < (kind :: other :: rest).length := by simp
    rw [nodesOfKinds, if_pos hseveral, dropRepeats_mergeSort_flatMap]
    exact filterMap_node?_map_id _

/-- **A query finds what a walk through the tree finds**: whichever types are asked for, however
many and in whatever order, repeated or unknown ones among them, it gives the nodes of these types
in document order, each of them once. -/
theorem nodesOfKinds_eq_scan (tree : SyntaxTree) (kinds : List String) :
    (ofTree tree).nodesOfKinds kinds = (tree.allNodes.filter fun n => n.kind ∈ kinds) ∧
    (∀ n : Node tree, n ∈ (ofTree tree).nodesOfKinds kinds ↔ n.kind ∈ kinds) ∧
    ((ofTree tree).nodesOfKinds kinds).Pairwise fun m n => m.id < n.id := by
  rw [nodesOfKinds_ofTree]
  exact ⟨rfl, fun n => by simp, tree.pairwise_allNodes.filter _⟩

end KindIndex

end DescriptiveLinks
