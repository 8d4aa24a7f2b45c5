import DescriptiveLinks.Proofs.Tree.RoundTrip
import DescriptiveLinks.Rule.Finding

/-! # Built trees as loaded ones

A tree that was built call by call can be stored in its nested form and loaded again. Nothing that a
check depends on is lost by that, because the ids that a builder gives out, one at a time and with
refused calls in between, are those of a walk through the finished tree.

* `lint_ofTokens_of_finish` says so of every built tree. -/

namespace DescriptiveLinks

open SyntaxTree

/-- **Building and loading agree**: a tree that is finished after any calls, refused ones included,
reads back as tokens, and loading these tokens gives the same tree: it has the same nodes under the
same ids, and the same parents. So all options find the same in both. -/
theorem lint_ofTokens_of_finish {source : String} {calls : List Builder.Call} {tree : SyntaxTree}
    (h : ((Builder.ofSource source).run calls).2.finish = .ok tree) :
    ∃ hforest : tree.IsForest, load? (tree.toTokens hforest) = some tree ∧
      ofTokens (tree.toTokens hforest) = tree ∧
      ∀ options, lint (ofTokens (tree.toTokens hforest)) options = lint tree options := by
  have hforest : tree.IsForest := (Produced.built h).isForest
  have hloaded : ofTokens (tree.toTokens hforest) = tree := ofTokens_toTokens hforest
  refine ⟨hforest, load?_toTokens hforest (Builder.size_le_of_finish h), hloaded, ?_⟩
  intro options
  rw [hloaded]

/-- A link whose label is closed at the second attempt, loaded from what it reads back as. -/
theorem lint_ofTokens_of_retry :
    let result := (Builder.ofSource "[here](b)").run [.openNode "link" 0, .openNode "label" 0,
      .token "labelText" ⟨1, 5⟩, .closeNode 4, .closeNode 6, .closeNode 9]
    result.1[3]? = some (.error (.misplaced "label" 0 4)) ∧
      ∃ tree, result.2.finish = .ok tree ∧ ∃ hforest : tree.IsForest,
        load? (tree.toTokens hforest) = some tree ∧ ofTokens (tree.toTokens hforest) = tree ∧
          (lint (ofTokens (tree.toTokens hforest)) {}).value = [⟨⟨1, 2⟩, "[here]"⟩] := by
  have h : ((Builder.ofSource "[here](b)").run [.openNode "link" 0, .openNode "label" 0,
      .token "labelText" ⟨1, 5⟩, .closeNode 4, .closeNode 6, .closeNode 9]).2.finish = .ok _ := rfl
  obtain ⟨hforest, hloaded, htree, hlint⟩ := lint_ofTokens_of_finish h
  refine ⟨rfl, _, h, hforest, hloaded, htree, ?_⟩
  rw [hlint]
  decide +kernel

end DescriptiveLinks
