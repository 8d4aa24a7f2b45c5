import DescriptiveLinks.Proofs.Tree.Arena
import DescriptiveLinks.Proofs.Tree.Draft
import DescriptiveLinks.Tree.Loader

/-! # Where trees come from

A document has its tree from a text in JSON or from calls to a builder. Either way the nodes are
those of a forest, numbered in document order. -/

namespace DescriptiveLinks

/-! ## Loading -/

namespace Token

mutual

/-- The forest of a token followed by `rest`. -/
def before (rest : Forest NodeLabel) : Token → Forest NodeLabel
  | ⟨kind, text, start, children⟩ => .cons ⟨kind.getD "", text, start⟩ (forest children) rest

/-- The forest of the tokens of a list. -/
def forest : List Token → Forest NodeLabel
  | [] => .nil
  | t :: ts => t.before (forest ts)

end

@[simp] theorem forest_nil : forest [] = .nil := by
  rw [forest]

@[simp] theorem forest_cons (kind : Option String) (text : String) (start : Position)
    (children ts : List Token) :
    forest (⟨kind, text, start, children⟩ :: ts)
      = .cons ⟨kind.getD "", text, start⟩ (forest children) (forest ts) := by
  rw [forest, before]

theorem size_forest : ∀ ts : List Token, (forest ts).size = forestSize ts
  | [] => by simp
  | ⟨kind, text, start, children⟩ :: ts => by
    rw [forest_cons, Forest.size_cons, size_forest children, size_forest ts, forestSize_cons, size]

theorem rootIds_forest (id : Nat) : ∀ ts : List Token, (forest ts).rootIds id = rootIds id ts
  | [] => by rw [forest_nil, Forest.rootIds_nil, rootIds]
  | ⟨kind, text, start, children⟩ :: ts => by
    rw [forest_cons, Forest.rootIds_cons, size_forest, rootIds_forest _ ts, rootIds, size,
      Nat.add_assoc]

theorem nodes_forest (id : Nat) :
    ∀ ts : List Token, (forest ts).nodes (fun l => l) id = forestNodesFrom id ts
  | [] => by simp
  | ⟨kind, text, start, children⟩ :: ts => by
    rw [forest_cons, Forest.nodes_cons, size_forest, rootIds_forest, nodes_forest _ children,
      nodes_forest _ ts, forestNodesFrom_cons, nodesFrom, size, Nat.add_assoc]
    rfl

end Token

/-! ## Both ways -/

namespace SyntaxTree

theorem isForest_ofTokens (tokens : List Token) : (ofTokens tokens).IsForest :=
  ⟨NodeLabel, fun l => l, Token.forest tokens, by rw [ofTokens, ofForest, Token.nodes_forest]⟩

theorem ofJson_of_error {text : String} {e : Json.Failure Unit}
    (h : Token.forestOfJson text = .error e) : ofJson text = .error (.json e) := by
  rw [ofJson, h]
  rfl

/-- Where the tokens of a text can be read, the tree is refused only for their number. -/
theorem ofJson_of_ok {text : String} {ts : List Token} (h : Token.forestOfJson text = .ok ts) :
    ofJson text =
      if Token.forestSize ts ≤ maxNodes then .ok (ofTokens ts) else .error .tooLarge := by
  rw [ofJson, h]
  show (load? ts).elim (Except.error LoadError.tooLarge) Except.ok = _
  rw [load?_eq]
  split <;> rfl

/-- The tree that is loaded is that of the tokens in the text. -/
theorem ofJson_eq_ok_iff {text : String} {tree : SyntaxTree} :
    ofJson text = .ok tree ↔ ∃ ts, Token.forestOfJson text = .ok ts ∧
      Token.forestSize ts ≤ maxNodes ∧ tree = ofTokens ts := by
  cases htokens : Token.forestOfJson text with
  | error e =>
    rw [ofJson_of_error htokens]
    exact iff_of_false nofun nofun
  | ok ts =>
    rw [ofJson_of_ok htokens]
    simp only [Except.ok.injEq, exists_eq_left', eq_comm (a := tree)]
    split <;> simp [*]

/-- The trees of documents. -/
inductive Produced : SyntaxTree → Prop
  /-- A tree may be loaded. -/
  | loaded {text : String} {tree : SyntaxTree} (h : ofJson text = .ok tree) : Produced tree
  /-- A tree may be built, by whatever calls. -/
  | built {source : String} {calls : List Builder.Call} {tree : SyntaxTree}
    (h : ((Builder.ofSource source).run calls).2.finish = .ok tree) : Produced tree

/-- **The tree of a document comes from a forest.** -/
theorem Produced.isForest {tree : SyntaxTree} (h : tree.Produced) : tree.IsForest := by
  cases h with
  | loaded h =>
    obtain ⟨tokens, -, -, rfl⟩ := ofJson_eq_ok_iff.mp h
    exact isForest_ofTokens tokens
  | built h =>
    obtain ⟨F, rfl, -⟩ := Builder.exists_forest_of_finish h
    exact isForest_ofForest _ F

end SyntaxTree

end DescriptiveLinks
