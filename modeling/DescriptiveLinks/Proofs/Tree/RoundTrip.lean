import DescriptiveLinks.Proofs.Tree.Produced

/-! # Reading trees back

A walk from a node to its children, and on to theirs, takes the nested form of a tree out of the
table again. It ends because children come after their parents, so it is defined for the trees that
come from a forest.

* `SyntaxTree.toTokens` is what a tree reads back as, from the nodes without a parent on.
* `SyntaxTree.toTokens_ofForest` says that it is the forest that the tree comes from.
* `SyntaxTree.ofTokens_toTokens` says that the tree of that forest is the tree again.
* `SyntaxTree.exists_load_and_toTokens` is the round trip of a loaded tree. -/

namespace DescriptiveLinks

/-! ## Walks -/

/-- The token with a label and given children. -/
def NodeLabel.token (l : NodeLabel) (children : List Token) : Token :=
  ⟨some l.kind, l.text, l.start, children⟩

theorem SyntaxTree.IsForest.id_lt_of_mem_children {tree : SyntaxTree} (h : tree.IsForest)
    {n c : Node tree} (hc : c ∈ n.children) : n.id < c.id := by
  obtain ⟨α, view, F, rfl⟩ := h
  have hid := List.mem_map_of_mem (f := Node.id) hc
  rw [Node.map_id_children, Forest.Entry.childIds, Node.id_entry] at hid
  exact (Forest.rootIds_bounds hid).1

namespace Node

variable {tree : SyntaxTree}

/-- What the tree keeps for a node apart from its children. -/
def label (n : Node tree) : NodeLabel :=
  ⟨n.kind, n.text, n.start⟩

/-- The **token that a node reads back as**: what the tree keeps for the node, with what its
children read back as. -/
def toToken (h : tree.IsForest) (n : Node tree) : Token :=
  n.label.token (n.children.attach.map fun c => toToken h c.1)
termination_by tree.nodes.size - n.id
decreasing_by
  have := h.id_lt_of_mem_children c.2
  have := c.1.id_lt
  omega

theorem toToken_eq (h : tree.IsForest) (n : Node tree) :
    n.toToken h = n.label.token (n.children.map (toToken h)) := by
  rw [toToken]
  simp

end Node

namespace SyntaxTree

/-- The nodes without a parent, in the order of their ids. -/
def roots (tree : SyntaxTree) : List (Node tree) :=
  tree.allNodes.filter fun n => n.parent?.isNone

/-- The **forest that a tree reads back as**. -/
def toTokens (tree : SyntaxTree) (h : tree.IsForest) : List Token :=
  tree.roots.map (Node.toToken h)

end SyntaxTree

/-! ## The tree of a forest -/

namespace Forest

variable {α : Type}

/-- The nested form of a forest, where `view` says what the labels stand for. -/
def tokens (view : α → NodeLabel) : Forest α → List Token
  | nil => []
  | cons label children rest => (view label).token (children.tokens view) :: rest.tokens view

/-- The nodes of a forest whose parent is outside it are the topmost ones, in order. -/
theorem map_id_filter_entries {parent : Option Nat} {id : Nat} (F : Forest α)
    (hparent : ∀ p, parent = some p → p < id) :
    ((F.entries parent id).filter fun e => e.parent = parent).map Entry.id = F.rootIds id := by
  induction F generalizing id with
  | nil => rfl
  | cons label children rest _ ihr =>
    have hbelow : ∀ e ∈ children.entries (some id) (id + 1), e.parent ≠ parent := by
      intro e he heq
      rcases parent_cases he with hp | ⟨p, hp, hle, -⟩
      · exact Nat.lt_irrefl id (hparent id (heq ▸ hp))
      · have := hparent p (heq ▸ hp)
        omega
    have hrest : ∀ p, parent = some p → p < id + children.size + 1 := by
      intro p hp
      have := hparent p hp
      omega
    rw [entries, List.filter_cons_of_pos (by simp), List.filter_append,
      List.filter_eq_nil_iff.mpr (by simpa using hbelow), List.nil_append, List.map_cons,
      ihr hrest, rootIds_cons]

end Forest

namespace Node

open SyntaxTree

variable {α : Type} {view : α → NodeLabel} {F : Forest α}

theorem label_ofForest (n : Node (ofForest view F)) : n.label = view n.entry.label := by
  rw [label, kind, text, start, data_eq]
  rfl

theorem map_label_allNodes :
    (ofForest view F).allNodes.map (fun n => (n.label, n.id))
      = (F.entries none 0).map fun e => (view e.label, e.id) := by
  have hentries : (ofForest view F).allNodes.map entry = F.entries none 0 := map_entry_allNodes
  simp only [← hentries, List.map_map, Function.comp_def, label_ofForest, id_entry]

/-- **Siblings read back as the trees below them.** The induction is on a part `G` of the forest,
and the siblings are the topmost nodes of that part. -/
theorem map_toToken_eq (h : (ofForest view F).IsForest) {G : Forest α} {parent : Option Nat}
    {id : Nat} (hG : ∀ e ∈ G.entries parent id, e ∈ F.entries none 0)
    {ns : List (Node (ofForest view F))} (hns : ns.map Node.id = G.rootIds id) :
    ns.map (toToken h) = G.tokens view := by
  induction G generalizing parent id ns with
  | nil =>
    rw [List.map_eq_nil_iff.mp hns]
    rfl
  | cons label children rest ihc ihr =>
    obtain ⟨n, ns, rfl, rfl, hrest⟩ := List.map_eq_cons_iff.mp hns
    have hentry : n.entry = ⟨parent, n.id, label, children⟩ :=
      Forest.eq_of_id_eq n.entry_mem (hG _ (Forest.mem_entries_cons.mpr (.inl rfl))) n.id_entry
    have hbelow : n.children.map (toToken h) = children.tokens view := by
      refine ihc (fun e he => hG e (Forest.mem_entries_cons.mpr (.inr (.inl he)))) ?_
      rw [map_id_children, hentry, Forest.Entry.childIds]
    have hafter : ns.map (toToken h) = rest.tokens view :=
      ihr (fun e he => hG e (Forest.mem_entries_cons.mpr (.inr (.inr he)))) hrest
    rw [List.map_cons, toToken_eq, label_ofForest, hentry, hbelow, hafter, Forest.tokens]

end Node

namespace SyntaxTree

variable {α : Type} {view : α → NodeLabel} {F : Forest α}

theorem map_id_roots : (ofForest view F).roots.map Node.id = F.rootIds 0 := by
  have hparent (n : Node (ofForest view F)) :
      n.parent?.isNone = decide (n.entry.parent = none) := by
    rw [← n.map_id_parent?]
    cases n.parent? <;> rfl
  have hentries : (ofForest view F).allNodes.map Node.entry = F.entries none 0 :=
    Node.map_entry_allNodes
  rw [← F.map_id_filter_entries (Forest.none_lt 0), ← hentries, roots]
  simp only [List.filter_map, List.map_map, Function.comp_def, hparent, Node.id_entry]

/-- **A tree reads back as the forest that it comes from.** -/
theorem toTokens_ofForest (h : (ofForest view F).IsForest) :
    (ofForest view F).toTokens h = F.tokens view :=
  Node.map_toToken_eq h (fun _ he => he) map_id_roots

end SyntaxTree

/-! ## The nested form as a tree -/

namespace Forest

variable {α : Type} (view : α → NodeLabel)

theorem forestSize_tokens (F : Forest α) : Token.forestSize (F.tokens view) = F.size := by
  induction F with
  | nil => rw [tokens, Token.forestSize_nil, size_nil]
  | cons label children rest ihc ihr =>
    rw [tokens, Token.forestSize_cons, NodeLabel.token, Token.size, ihc, ihr, size_cons]

theorem rootIds_tokens (id : Nat) (F : Forest α) :
    Token.rootIds id (F.tokens view) = F.rootIds id := by
  induction F generalizing id with
  | nil => rw [tokens, Token.rootIds, rootIds_nil]
  | cons label children rest _ ihr =>
    rw [tokens, Token.rootIds, NodeLabel.token, Token.size, forestSize_tokens, ihr, rootIds_cons,
      Nat.add_assoc]

/-- The nested form of a forest has the nodes of the forest. -/
theorem forestNodesFrom_tokens (id : Nat) (F : Forest α) :
    Token.forestNodesFrom id (F.tokens view) = F.nodes view id := by
  induction F generalizing id with
  | nil => rw [tokens, Token.forestNodesFrom_nil, nodes_nil]
  | cons label children rest ihc ihr =>
    -- The first token takes its own id and those of the nodes below it.
    have hsize : ((view label).token (children.tokens view)).size = children.size + 1 := by
      rw [NodeLabel.token, Token.size, forestSize_tokens]
    rw [tokens, Token.forestNodesFrom_cons, hsize, ihr, NodeLabel.token, Token.nodesFrom,
      rootIds_tokens, ihc, nodes_cons, Nat.add_assoc]
    rfl

end Forest

/-- **Reading a tree back loses nothing**: numbering what it reads back as gives the same tree. -/
theorem SyntaxTree.ofTokens_toTokens {tree : SyntaxTree} (h : tree.IsForest) :
    ofTokens (tree.toTokens h) = tree := by
  obtain ⟨α, view, F, rfl⟩ := id h
  rw [toTokens_ofForest, ofTokens, Forest.forestNodesFrom_tokens, ofForest]

theorem SyntaxTree.forestSize_toTokens {tree : SyntaxTree} (h : tree.IsForest) :
    Token.forestSize (tree.toTokens h) = tree.size := by
  rw [← size_ofTokens, ofTokens_toTokens h]

/-- A tree is what its tokens give, as long as there are ids for them. -/
theorem SyntaxTree.load?_toTokens {tree : SyntaxTree} (h : tree.IsForest)
    (hsize : tree.size ≤ maxNodes) : load? (tree.toTokens h) = some tree := by
  rw [load?_eq, forestSize_toTokens h, if_pos hsize, ofTokens_toTokens h]

/-! ## Loaded trees -/

namespace Token

/-- What a tree keeps for a token apart from its children: a missing type is the empty string. -/
def label (t : Token) : NodeLabel :=
  ⟨t.kind.getD "", t.text, t.start⟩

/-- A token with the empty string for every missing type. -/
def typed : Token → Token
  | ⟨kind, text, start, children⟩ => ⟨some (kind.getD ""), text, start, children.map typed⟩

/-- A token and those below it in **pre-order**. -/
def preorder : Token → List Token
  | ⟨kind, text, start, children⟩ => ⟨kind, text, start, children⟩ :: children.flatMap preorder

/-- The nested form of the forest of some tokens is these tokens. -/
theorem tokens_forest : ∀ ts : List Token, (forest ts).tokens (fun l => l) = ts.map typed
  | [] => by rw [forest_nil, Forest.tokens, List.map_nil]
  | ⟨kind, text, start, children⟩ :: ts => by
    rw [forest_cons, Forest.tokens, tokens_forest children, tokens_forest ts, List.map_cons, typed,
      NodeLabel.token]

/-- The entries of the forest of some tokens are the tokens in pre-order, numbered. -/
theorem map_entries_forest (parent : Option Nat) (id : Nat) : ∀ ts : List Token,
    ((forest ts).entries parent id).map (fun e => (e.label, e.id))
      = ((ts.flatMap preorder).map label).zipIdx id
  | [] => by rw [forest_nil]; rfl
  | ⟨kind, text, start, children⟩ :: ts => by
    have hchildren := map_entries_forest (some id) (id + 1) children
    -- The tokens after the first one are numbered from where its children stop.
    have hlength : ((children.flatMap preorder).map label).length = (forest children).size := by
      simpa using (congrArg List.length hchildren).symm
    rw [forest_cons, Forest.entries, List.map_cons, List.map_append, hchildren,
      map_entries_forest parent _ ts, List.flatMap_cons, preorder, List.cons_append, List.map_cons,
      List.map_append, List.zipIdx_cons, List.zipIdx_append, hlength, Nat.add_right_comm id]
    rfl

end Token

namespace SyntaxTree

theorem ofTokens_eq_ofForest (tokens : List Token) :
    ofTokens tokens = ofForest (fun l => l) (Token.forest tokens) := by
  rw [ofTokens, ofForest, Token.nodes_forest]

/-- The tree of some tokens lists them in pre-order, and reads back as these tokens. -/
theorem toTokens_ofTokens (tokens : List Token) :
    (ofTokens tokens).allNodes.map (fun n => (n.label, n.id))
        = ((tokens.flatMap Token.preorder).map Token.label).zipIdx ∧
      (ofTokens tokens).toTokens (isForest_ofTokens tokens) = tokens.map Token.typed := by
  generalize isForest_ofTokens tokens = h
  revert h
  rw [ofTokens_eq_ofForest]
  intro h
  constructor
  · rw [Node.map_label_allNodes, Token.map_entries_forest]
  · rw [toTokens_ofForest, Token.tokens_forest]

/-- **Loading loses nothing**: where there are ids for all tokens, putting them in a table one after
the other gives a tree, its nodes are the tokens in pre-order with consecutive ids, and it reads back
as the forest that was loaded. -/
theorem exists_load_and_toTokens {tokens : List Token} (h : Token.forestSize tokens ≤ maxNodes) :
    ∃ tree, load? tokens = some tree ∧
      tree.allNodes.map (fun n => (n.label, n.id))
        = ((tokens.flatMap Token.preorder).map Token.label).zipIdx ∧
      ∃ hforest : tree.IsForest, tree.toTokens hforest = tokens.map Token.typed := by
  obtain ⟨hnodes, htokens⟩ := toTokens_ofTokens tokens
  exact ⟨ofTokens tokens, by rw [load?_eq, if_pos h], hnodes, isForest_ofTokens tokens, htokens⟩

/-- A node without a type around two others, in front of a link. -/
theorem exists_load_of_untyped :
    let below : List Token := [⟨some "text", "a", ⟨1, 1⟩, []⟩, ⟨some "text", "é", ⟨1, 2⟩, []⟩]
    let tokens : List Token := [⟨none, "aé", ⟨1, 1⟩, below⟩, ⟨some "link", "[]()", ⟨2, 1⟩, []⟩]
    Token.forestSize tokens ≤ maxNodes ∧ ∃ tree, load? tokens = some tree ∧
      tree.allNodes.map (fun n => (n.kind, n.id)) = [("", 0), ("text", 1), ("text", 2), ("link", 3)] ∧
      ∃ hforest : tree.IsForest, tree.toTokens hforest
        = [⟨some "", "aé", ⟨1, 1⟩, below⟩, ⟨some "link", "[]()", ⟨2, 1⟩, []⟩] := by
  intro below tokens
  have hsize : Token.forestSize tokens ≤ maxNodes := by decide
  obtain ⟨tree, hload, hnodes, hforest, htokens⟩ := exists_load_and_toTokens hsize
  refine ⟨hsize, tree, hload, ?_, hforest, htokens.trans ?_⟩
  · have hkinds := congrArg (List.map fun p => (p.1.kind, p.2)) hnodes
    rw [List.map_map] at hkinds
    exact hkinds.trans (by simp [tokens, below, Token.preorder, Token.label])
  · simp [tokens, below, Token.typed]

end SyntaxTree

end DescriptiveLinks
