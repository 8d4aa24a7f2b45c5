import DescriptiveLinks.Proofs.Tree.Table
import DescriptiveLinks.Tree.Token

/-! # Tokens in the table

A token and those below it are put at the end of a table while the table grows, and what a token has
for children is only complete after all that. What comes out in the end is the forest in pre-order:
since the tokens below one take the ids right after it, all ids follow from sizes.

* `Token.nodesFrom` and `Token.forestNodesFrom` are the nodes in the end, numbered from a given id.
* `Token.push_eq` says that these are what is put at the end of the table.
* `SyntaxTree.load?_eq` says of the whole forest what tree it gives, and that ids are missing only
  where it has too many tokens. -/

namespace DescriptiveLinks

namespace Token

/-! ## Sizes and ids -/

mutual

/-- The number of tokens in a token, itself included. -/
def size : Token → Nat
  | ⟨_, _, _, children⟩ => forestSize children + 1

/-- The number of tokens in a forest. -/
def forestSize : List Token → Nat
  | [] => 0
  | t :: ts => t.size + forestSize ts

end

/-- The ids of the topmost tokens of a forest whose tokens are numbered from `id`. -/
def rootIds (id : Nat) : List Token → List Nat
  | [] => []
  | t :: ts => id :: rootIds (id + t.size) ts

mutual

/-- The nodes of a token and of those below it, numbered from `id`. -/
def nodesFrom (id : Nat) : Token → List NodeData
  | ⟨kind, text, start, children⟩ =>
    ⟨kind.getD "", text, start, rootIds (id + 1) children⟩ :: forestNodesFrom (id + 1) children

/-- The nodes of a forest, numbered from `id`. -/
def forestNodesFrom (id : Nat) : List Token → List NodeData
  | [] => []
  | t :: ts => t.nodesFrom id ++ forestNodesFrom (id + t.size) ts

end

@[simp] theorem forestSize_nil : forestSize [] = 0 := by
  rw [forestSize]

@[simp] theorem forestSize_cons (t : Token) (ts : List Token) :
    forestSize (t :: ts) = t.size + forestSize ts := by
  rw [forestSize]

@[simp] theorem rootIds_nil (id : Nat) : rootIds id [] = [] := by
  rw [rootIds]

@[simp] theorem rootIds_cons (id : Nat) (t : Token) (ts : List Token) :
    rootIds id (t :: ts) = id :: rootIds (id + t.size) ts := by
  rw [rootIds]

@[simp] theorem forestNodesFrom_nil (id : Nat) : forestNodesFrom id [] = [] := by
  rw [forestNodesFrom]

@[simp] theorem forestNodesFrom_cons (id : Nat) (t : Token) (ts : List Token) :
    forestNodesFrom id (t :: ts) = t.nodesFrom id ++ forestNodesFrom (id + t.size) ts := by
  rw [forestNodesFrom]

mutual

/-- A token has as many nodes as its size says. -/
theorem length_nodesFrom (id : Nat) : ∀ t : Token, (t.nodesFrom id).length = t.size
  | ⟨_, _, _, children⟩ => by
    rw [nodesFrom, size, List.length_cons, length_forestNodesFrom (id + 1) children]

/-- A forest has as many nodes as its size says. -/
theorem length_forestNodesFrom (id : Nat) :
    ∀ ts : List Token, (forestNodesFrom id ts).length = forestSize ts
  | [] => by simp
  | t :: ts => by
    simp [length_nodesFrom id t, length_forestNodesFrom (id + t.size) ts]

end

/-! ## The growing table -/

mutual

/-- **What putting a token in a table does**: the token and those below it stand at the end of the
table, if there are ids for them. -/
theorem push_eq {nodes : List NodeData} {id : Nat} (hid : nodes.length = id) : ∀ t : Token,
    t.push nodes.toArray = if id + t.size ≤ maxNodes then
      some (id, (nodes ++ t.nodesFrom id).toArray) else none
  | ⟨kind, text, start, children⟩ => by
    rw [push, nextId?, List.size_toArray, hid, size, nodesFrom, Nat.add_comm (forestSize _),
      ← Nat.add_assoc]
    by_cases hroom : id < maxNodes
    · have hchildren :=
        pushChildren_eq hid [] ⟨kind.getD "", text, start, []⟩ (id + 1) rfl hroom children
      rw [if_pos hroom, Option.bind_eq_bind, Option.bind_some, List.push_toArray, hchildren]
      split <;> rfl
    · rw [if_neg hroom, if_neg (by omega)]
      rfl

/-- **What putting its children in a table does to a node**: they stand at the end of the table, and
their ids at the end of the list that the node keeps. -/
theorem pushChildren_eq {before : List NodeData} {id : Nat} (hid : before.length = id)
    (after : List NodeData) (n : NodeData) (next : Nat) (hnext : id + 1 + after.length = next)
    (hle : next ≤ maxNodes) : ∀ ts : List Token, pushChildren id (before ++ n :: after).toArray ts =
      if next + forestSize ts ≤ maxNodes then
        some (before ++ { n with children := n.children ++ rootIds next ts } ::
          (after ++ forestNodesFrom next ts)).toArray
      else none
  | [] => by
    rw [pushChildren, forestSize_nil, Nat.add_zero, if_pos hle, rootIds_nil, forestNodesFrom_nil,
      List.append_nil, List.append_nil]
  | t :: ts => by
    have hlength : (before ++ n :: after).length = next := by
      rw [List.length_append, List.length_cons]
      omega
    rw [pushChildren, push_eq hlength t, forestSize_cons, rootIds_cons, forestNodesFrom_cons,
      ← Nat.add_assoc]
    by_cases hroom : next + t.size ≤ maxNodes
    · -- The table has grown by the nodes of the token when its id is noted.
      have hnext' : id + 1 + (after ++ t.nodesFrom next).length = next + t.size := by
        rw [List.length_append, length_nodesFrom]
        omega
      rw [if_pos hroom, Option.bind_eq_bind, Option.bind_some, List.append_assoc, List.cons_append]
      dsimp only
      rw [addChild_toArray_append hid, pushChildren_eq hid _ _ _ hnext' hroom ts]
      simp only [List.append_assoc, List.singleton_append]
    · rw [if_neg hroom, if_neg (by omega)]
      rfl

end

/-- Putting the topmost tokens in a table one after the other puts the whole forest there. -/
theorem foldlM_push_eq {nodes : List NodeData} {id : Nat} (hid : nodes.length = id)
    (hle : id ≤ maxNodes) (ts : List Token) :
    ts.foldlM (fun nodes t => (t.push nodes).map Prod.snd) nodes.toArray =
      if id + forestSize ts ≤ maxNodes then some (nodes ++ forestNodesFrom id ts).toArray
      else none := by
  induction ts generalizing nodes id with
  | nil =>
    rw [List.foldlM_nil, forestSize_nil, Nat.add_zero, if_pos hle, forestNodesFrom_nil,
      List.append_nil]
    rfl
  | cons t ts ih =>
    rw [List.foldlM_cons, push_eq hid, forestSize_cons, forestNodesFrom_cons, ← Nat.add_assoc]
    by_cases hroom : id + t.size ≤ maxNodes
    · have hid' : (nodes ++ t.nodesFrom id).length = id + t.size := by
        rw [List.length_append, hid, length_nodesFrom]
      rw [if_pos hroom, Option.map_some, Option.bind_eq_bind, Option.bind_some, ih hid' hroom,
        List.append_assoc]
    · rw [if_neg hroom, if_neg (by omega)]
      rfl

end Token

namespace SyntaxTree

/-- The tree of a forest whose tokens are numbered in pre-order. -/
def ofTokens (tokens : List Token) : SyntaxTree :=
  ofNodes (Token.forestNodesFrom 0 tokens).toArray

@[simp] theorem size_ofTokens (tokens : List Token) :
    (ofTokens tokens).size = Token.forestSize tokens := by
  simp [size, ofTokens, Token.length_forestNodesFrom]

/-- **What tree a forest gives**: the one with its tokens in pre-order, if there are ids for all of
them. -/
theorem load?_eq (tokens : List Token) :
    load? tokens = if Token.forestSize tokens ≤ maxNodes then some (ofTokens tokens) else none := by
  have hnodes := Token.foldlM_push_eq List.length_nil (Nat.zero_le _) tokens
  rw [load?, hnodes, Nat.zero_add, List.nil_append]
  split <;> rfl

end SyntaxTree

end DescriptiveLinks
