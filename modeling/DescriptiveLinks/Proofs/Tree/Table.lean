import DescriptiveLinks.Proofs.Tree.Forest

/-! # Trees of numbered forests

Both ways of making a syntax tree number the nodes of a forest and keep them in a table. In a tree
that comes from a forest, the table of parents and the lists of children tell the same.

* `SyntaxTree.ofForest` is the tree of a forest, and `SyntaxTree.IsForest` says that a tree is one.
* `SyntaxTree.IsForest.parent?_eq_some_iff` says that a node's parent is the node that lists it. -/

namespace DescriptiveLinks

/-- What a tree keeps for a node apart from its children. -/
structure NodeLabel where
  /-- The type of the node, empty if it has none. -/
  kind : String
  /-- The source text of the node. -/
  text : String
  /-- Where the text starts. -/
  start : Position

/-- The node with a label and the ids of its children. -/
def NodeLabel.node (l : NodeLabel) (children : List Nat) : NodeData :=
  ⟨l.kind, l.text, l.start, children⟩

/-! ## Changes inside a table -/

/-- A table is changed at the end of its first part. -/
theorem modify_toArray_append {α : Type} (f : α → α) (a : α) {as : List α} (bs : List α) {i : Nat}
    (hi : as.length = i) : (as ++ a :: bs).toArray.modify i f = (as ++ f a :: bs).toArray := by
  subst hi
  rw [List.modify_toArray, List.modify_eq_take_cons_drop (by simp)]
  simp

theorem addChild_toArray_append {before : List NodeData} {id : Nat} (hid : before.length = id)
    (after : List NodeData) (n : NodeData) (child : Nat) :
    addChild (before ++ n :: after).toArray id child
      = (before ++ { n with children := n.children ++ [child] } :: after).toArray :=
  modify_toArray_append _ n after hid

/-! ## Tables of forests -/

namespace Forest

variable {α : Type} (view : α → NodeLabel)

/-- The table of the nodes of a forest that is numbered from `id`, where `view` says what the labels
stand for. -/
def nodes (id : Nat) : Forest α → List NodeData
  | nil => []
  | cons label children rest =>
    (view label).node (children.rootIds (id + 1)) ::
      (children.nodes (id + 1) ++ rest.nodes (id + children.size + 1))

/-- The node that an entry stands for. -/
def Entry.node (e : Entry α) : NodeData :=
  (view e.label).node e.childIds

@[simp] theorem nodes_nil (id : Nat) : (nil : Forest α).nodes view id = [] := rfl

@[simp] theorem nodes_cons (id : Nat) (label : α) (children rest : Forest α) :
    (cons label children rest).nodes view id
      = (view label).node (children.rootIds (id + 1)) ::
        (children.nodes view (id + 1) ++ rest.nodes view (id + children.size + 1)) := rfl

/-- The table lists the entries. -/
theorem nodes_eq_map (parent : Option Nat) (id : Nat) (F : Forest α) :
    F.nodes view id = (F.entries parent id).map (Entry.node view) := by
  induction F generalizing parent id with
  | nil => rfl
  | cons label children rest ihc ihr =>
    rw [nodes_cons, ihc (some id), ihr parent, entries, List.map_cons, List.map_append]
    rfl

@[simp] theorem length_nodes (id : Nat) (F : Forest α) : (F.nodes view id).length = F.size := by
  rw [nodes_eq_map view none, List.length_map, length_entries]

theorem nodes_append (id : Nat) (F G : Forest α) :
    (F.append G).nodes view id = F.nodes view id ++ G.nodes view (id + F.size) := by
  rw [nodes_eq_map view none, entries_append, List.map_append, ← nodes_eq_map, ← nodes_eq_map]

end Forest

/-! ## The table of parents -/

theorem recordParent_cons (id c : Nat) (cs : List Nat) (table : Array (Option Nat)) :
    recordParent id (c :: cs) table = recordParent id cs (table.setIfInBounds c (some id)) := rfl

@[simp] theorem size_recordParent (id : Nat) (children : List Nat) (table : Array (Option Nat)) :
    (recordParent id children table).size = table.size := by
  induction children generalizing table with
  | nil => rfl
  | cons c cs ih => rw [recordParent_cons, ih, Array.size_setIfInBounds]

theorem getElem?_recordParent (id : Nat) (children : List Nat) {table : Array (Option Nat)}
    {i : Nat} (hi : i < table.size) :
    (recordParent id children table)[i]?
      = if i ∈ children then some (some id) else table[i]? := by
  induction children generalizing table with
  | nil => simp [recordParent]
  | cons c cs ih =>
    rw [recordParent_cons, ih (by simpa using hi), Array.getElem?_setIfInBounds]
    by_cases hcs : i ∈ cs
    · simp [hcs]
    · by_cases hc : c = i
      · subst hc
        simp [hi]
      · simp [hcs, hc, Ne.symm hc]

/-- Where all nodes that list `i` are the same one, the table names it. -/
theorem getElem?_foldl_recordParent {i : Nat} {parent : Option Nat}
    {nodes : List (NodeData × Nat)} (h : ∀ x ∈ nodes, i ∈ x.1.children → some x.2 = parent)
    (table : Array (Option Nat)) (hi : i < table.size) :
    (nodes.foldl (fun table (node, id) => recordParent id node.children table) table)[i]?
      = if ∃ x ∈ nodes, i ∈ x.1.children then some parent else table[i]? := by
  induction nodes generalizing table with
  | nil => simp
  | cons x xs ih =>
    obtain ⟨hx, hxs⟩ := List.forall_mem_cons.mp h
    rw [List.foldl_cons, ih hxs _ (by rwa [size_recordParent]), getElem?_recordParent _ _ hi]
    -- A later node that lists `i` decides, and it is the same as any earlier one.
    by_cases hlater : ∃ y ∈ xs, i ∈ y.1.children
    · obtain ⟨y, hy, hiy⟩ := id hlater
      rw [if_pos hlater, if_pos ⟨y, List.mem_cons_of_mem x hy, hiy⟩]
    · rw [if_neg hlater]
      by_cases hnow : i ∈ x.1.children
      · rw [if_pos hnow, if_pos ⟨x, List.mem_cons_self, hnow⟩, hx hnow]
      · rw [if_neg hnow, if_neg]
        rintro ⟨y, hy, hiy⟩
        rcases List.mem_cons.mp hy with rfl | hy
        · exact hnow hiy
        · exact hlater ⟨y, hy, hiy⟩

/-- The table of parents names the node that lists `i`, if it is the only one. -/
theorem getElem?_parentTable {nodes : Array NodeData} {i : Nat} (hi : i < nodes.size)
    {parent : Option Nat}
    (h : ∀ p, (∃ n, nodes[p]? = some n ∧ i ∈ n.children) ↔ parent = some p) :
    (parentTable nodes)[i]? = some parent := by
  have hmem (x : NodeData × Nat) : x ∈ nodes.toList.zipIdx ↔ nodes[x.2]? = some x.1 := by
    rw [List.mem_zipIdx_iff_getElem?, Array.getElem?_toList]
  have hlister : ∀ x ∈ nodes.toList.zipIdx, i ∈ x.1.children → some x.2 = parent := by
    intro x hx hix
    exact ((h x.2).mp ⟨x.1, (hmem x).mp hx, hix⟩).symm
  rw [parentTable, getElem?_foldl_recordParent hlister _ (by simpa using hi)]
  split
  · rfl
  · next hnone =>
    have hparent : parent = none := by
      refine Option.eq_none_iff_forall_ne_some.mpr fun p hp => ?_
      obtain ⟨n, hn, hin⟩ := (h p).mpr hp
      exact hnone ⟨(n, p), (hmem _).mpr hn, hin⟩
    simp [hi, hparent]

/-! ## Nodes -/

namespace Node

variable {tree : SyntaxTree}

theorem eq_of_id_eq {m n : Node tree} (h : m.id = n.id) : m = n := by
  cases m
  cases n
  cases h
  rfl

@[simp] theorem node?_eq_some_iff {id : Nat} {n : Node tree} :
    tree.node? id = some n ↔ n.id = id := by
  rw [SyntaxTree.node?]
  split
  · next h =>
    rw [Option.some_inj]
    exact ⟨fun heq => heq ▸ rfl, fun heq => eq_of_id_eq heq.symm⟩
  · next h =>
    refine iff_of_false nofun fun heq => ?_
    exact h (heq ▸ n.id_lt)

theorem mem_children_iff {n p : Node tree} : n ∈ p.children ↔ n.id ∈ p.data.children := by
  simp [children, List.mem_filterMap]

theorem parent?_eq_some_iff {n p : Node tree} :
    n.parent? = some p ↔ tree.parents[n.id]? = some (some p.id) := by
  rw [parent?, Option.bind_eq_bind, Option.bind_eq_some_iff]
  constructor
  · rintro ⟨parent, hparent, h⟩
    obtain ⟨id, rfl, hid⟩ := Option.bind_eq_some_iff.mp h
    rw [hparent, node?_eq_some_iff.mp hid]
  · intro h
    exact ⟨some p.id, h, Option.bind_eq_some_iff.mpr ⟨p.id, rfl, node?_eq_some_iff.mpr rfl⟩⟩

end Node

namespace SyntaxTree

@[simp] theorem mem_allNodes {tree : SyntaxTree} (n : Node tree) : n ∈ tree.allNodes :=
  List.mem_ofFn.mpr ⟨⟨n.id, n.id_lt⟩, rfl⟩

theorem pairwise_allNodes (tree : SyntaxTree) :
    tree.allNodes.Pairwise fun m n => m.id < n.id :=
  List.pairwise_iff_getElem.mpr fun i j hi hj h => by simpa [allNodes] using h

/-- The **tree of a forest**. -/
def ofForest {α : Type} (view : α → NodeLabel) (F : Forest α) : SyntaxTree :=
  ofNodes (F.nodes view 0).toArray

/-- Whether a tree is that of a forest, as far as the labels of a forest are free. -/
def IsForest (tree : SyntaxTree) : Prop :=
  ∃ (α : Type) (view : α → NodeLabel) (F : Forest α), tree = ofForest view F

theorem isForest_ofForest {α : Type} (view : α → NodeLabel) (F : Forest α) :
    (ofForest view F).IsForest :=
  ⟨α, view, F, rfl⟩

end SyntaxTree

namespace Node

open SyntaxTree

variable {α : Type} {view : α → NodeLabel} {F : Forest α}

theorem lt_length_entries (n : Node (ofForest view F)) : n.id < (F.entries none 0).length := by
  simpa [ofForest] using n.id_lt

/-- The entry of a node of the tree of a forest. -/
def entry (n : Node (ofForest view F)) : Forest.Entry α :=
  (F.entries none 0).get ⟨n.id, n.lt_length_entries⟩

theorem getElem?_entries (n : Node (ofForest view F)) :
    (F.entries none 0)[n.id]? = some n.entry :=
  List.getElem?_eq_getElem n.lt_length_entries

theorem entry_mem (n : Node (ofForest view F)) : n.entry ∈ F.entries none 0 :=
  (Forest.getElem?_entries_eq_some_iff.mp n.getElem?_entries).1

@[simp] theorem id_entry (n : Node (ofForest view F)) : n.entry.id = n.id :=
  (Forest.getElem?_entries_eq_some_iff.mp n.getElem?_entries).2

/-- The table has the entry at the id of a node. -/
theorem data_eq (n : Node (ofForest view F)) : n.data = n.entry.node view := by
  have h : (ofForest view F).nodes[n.id]? = some (n.entry.node view) := by
    simp [ofForest, Forest.nodes_eq_map view none, n.getElem?_entries]
  rw [Array.getElem?_eq_getElem n.id_lt] at h
  exact Option.some_inj.mp h

theorem kind_eq (n : Node (ofForest view F)) : n.kind = (view n.entry.label).kind := by
  rw [kind, data_eq]
  rfl

/-- The table of parents has the parent of the entry. -/
theorem getElem?_parents (n : Node (ofForest view F)) :
    (ofForest view F).parents[n.id]? = some n.entry.parent := by
  rw [(ofForest view F).parents_eq]
  refine getElem?_parentTable n.id_lt fun p => ?_
  have hnode (m : NodeData) : (ofForest view F).nodes[p]? = some m ↔
      ∃ e ∈ F.entries none 0, e.id = p ∧ e.node view = m := by
    simp [ofForest, Forest.nodes_eq_map view none, Forest.getElem?_entries_eq_some_iff, and_assoc]
  constructor
  · rintro ⟨m, hm, hin⟩
    obtain ⟨e, he, rfl, rfl⟩ := (hnode m).mp hm
    rw [Forest.parent_eq_some_iff (Forest.none_lt 0) n.entry_mem he, id_entry]
    exact hin
  · intro hp
    -- The parent comes before the node, so the table has it.
    have hlt := Forest.lt_of_parent_eq_some (Forest.none_lt 0) n.entry_mem hp
    rw [id_entry] at hlt
    have hsize : p < (ofForest view F).nodes.size := Nat.lt_trans hlt n.id_lt
    have hparent := id_entry (⟨p, hsize⟩ : Node (ofForest view F))
    refine ⟨_, (hnode _).mpr ⟨_, entry_mem ⟨p, hsize⟩, hparent, rfl⟩, ?_⟩
    rw [← id_entry n]
    refine (Forest.parent_eq_some_iff (Forest.none_lt 0) n.entry_mem (entry_mem _)).mp ?_
    rw [hp, hparent]

theorem entry_parent_eq_some_iff {n p : Node (ofForest view F)} :
    n.entry.parent = some p.id ↔ n.parent? = some p := by
  rw [parent?_eq_some_iff, getElem?_parents, Option.some_inj]

/-- The parent that an entry names is a node. -/
theorem exists_parent?_eq_some {n : Node (ofForest view F)} {i : Nat}
    (h : n.entry.parent = some i) : ∃ p, n.parent? = some p ∧ p.id = i := by
  have hlt := Forest.lt_of_parent_eq_some (Forest.none_lt 0) n.entry_mem h
  rw [id_entry] at hlt
  exact ⟨⟨i, Nat.lt_trans hlt n.id_lt⟩, entry_parent_eq_some_iff.mp h, rfl⟩

/-- The id of the parent is that of the entry. -/
theorem map_id_parent? (n : Node (ofForest view F)) :
    n.parent?.map Node.id = n.entry.parent := by
  cases hparent : n.entry.parent with
  | none =>
    rw [Option.map_eq_none_iff, Option.eq_none_iff_forall_ne_some]
    intro p hp
    rw [← entry_parent_eq_some_iff, hparent] at hp
    cases hp
  | some i =>
    obtain ⟨p, hp, rfl⟩ := exists_parent?_eq_some hparent
    rw [hp]
    rfl

theorem map_entry_allNodes : (ofForest view F).allNodes.map entry = F.entries none 0 := by
  apply List.ext_getElem
  · rw [List.length_map, allNodes, List.length_ofFn]
    simp [ofForest]
  · intro i hi hi'
    simp [allNodes, entry]

/-- The ids of the children are those of the entry. -/
theorem map_id_children (n : Node (ofForest view F)) :
    n.children.map Node.id = n.entry.childIds := by
  have hchildren : n.data.children = n.entry.childIds := by rw [data_eq]; rfl
  have hlt : ∀ i ∈ n.entry.childIds, i < (ofForest view F).nodes.size := by
    intro i hi
    have hi := Forest.rootIds_bounds hi
    have hlast := Forest.last_lt n.entry_mem
    simp only [Forest.Entry.last] at hlast
    simp only [ofForest, nodes_ofNodes, List.size_toArray, Forest.length_nodes]
    omega
  -- No id is out of range, so no child is dropped.
  rw [children, hchildren]
  generalize n.entry.childIds = ids at hlt
  induction ids with
  | nil => rfl
  | cons i is ih =>
    obtain ⟨hi, his⟩ := List.forall_mem_cons.mp hlt
    rw [List.filterMap_cons_some (node?_eq_some_iff.mpr (show Node.id ⟨i, hi⟩ = i from rfl)),
      List.map_cons, ih his]

end Node

namespace SyntaxTree.IsForest

variable {tree : SyntaxTree}

/-- **A node's parent is the node that lists it as a child.** -/
theorem parent?_eq_some_iff (h : tree.IsForest) {n p : Node tree} :
    n.parent? = some p ↔ n ∈ p.children := by
  obtain ⟨α, view, F, rfl⟩ := h
  rw [← Node.entry_parent_eq_some_iff, Node.mem_children_iff, Node.data_eq, ← Node.id_entry p,
    Forest.parent_eq_some_iff (Forest.none_lt 0) n.entry_mem p.entry_mem, Node.id_entry]
  rfl

/-- Children are listed in document order, and each of them once. -/
theorem pairwise_children (h : tree.IsForest) (n : Node tree) :
    n.children.Pairwise fun c d => c.id < d.id := by
  obtain ⟨α, view, F, rfl⟩ := h
  rw [← List.pairwise_map (R := (· < ·)) (f := Node.id), Node.map_id_children]
  exact Forest.pairwise_rootIds _ _

end SyntaxTree.IsForest

end DescriptiveLinks
