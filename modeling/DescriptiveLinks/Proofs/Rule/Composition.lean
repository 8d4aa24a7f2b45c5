import DescriptiveLinks.Proofs.Rule.Report
import DescriptiveLinks.Proofs.Tree.Ancestors
import DescriptiveLinks.Proofs.Tree.RoundTrip

/-! # Findings of parts

What is found in a tree does not depend on ids, nor on what stands elsewhere in the document. A walk
that knows of each node whether its parent is a link finds all there is: a label is compared where
it is met, with its children beside it.

* `Forest.reported` is that walk, and `findings_ofForest` says that it finds what the rule finds by
  means of the index and the table of parents.
* `lint_append_and_wrap` says what follows for documents that are put together or wrapped. -/

namespace DescriptiveLinks

/-! ## The walk -/

namespace NodeLabel

/-- Whether a node is a run of text with a place in the source. -/
def isRun (l : NodeLabel) : Bool :=
  l.kind = labelTextKind && 0 < l.start.line

/-- The findings of a label of a link, by its children. -/
def reported (banned : BannedPhrases) (l : NodeLabel) (children : List NodeLabel) :
    List Finding :=
  if normalize l.text ∈ banned then (children.filter isRun).map fun run => ⟨run.start, l.text⟩
  else []

end NodeLabel

namespace Forest

variable {α : Type}

/-- The labels of the topmost nodes. -/
def rootLabels : Forest α → List α
  | nil => []
  | cons label _ rest => label :: rest.rootLabels

/-- The **findings in a forest**, where `inLink` tells whether its topmost nodes are the children of
a link. -/
def reported (view : α → NodeLabel) (banned : BannedPhrases) (inLink : Bool) :
    Forest α → List Finding
  | nil => []
  | cons label children rest =>
    (if (view label).kind = labelKind ∧ inLink then
        (view label).reported banned (children.rootLabels.map view)
      else []) ++
      (children.reported view banned ((view label).kind = linkKind) ++
        rest.reported view banned inLink)

theorem map_label_rootEntries (parent : Option Nat) (id : Nat) (F : Forest α) :
    (F.rootEntries parent id).map Entry.label = F.rootLabels := by
  induction F generalizing id with
  | nil => rfl
  | cons label children rest _ ih => rw [rootEntries, List.map_cons, ih, rootLabels]

variable (view : α → NodeLabel) (banned : BannedPhrases)

/-- What is found in trees that stand one after the other is found in each of them. -/
theorem reported_append (inLink : Bool) (F G : Forest α) :
    (F.append G).reported view banned inLink =
      F.reported view banned inLink ++ G.reported view banned inLink := by
  induction F with
  | nil => rfl
  | cons label children rest _ ih =>
    rw [cons_append, reported, ih, reported, List.append_assoc, List.append_assoc]

/-- A node that is not a link adds nothing to what is found below it, unless it is itself in a
link. -/
theorem reported_singleton {label : α} (hkind : (view label).kind ≠ linkKind)
    (children : Forest α) :
    (cons label children nil).reported view banned false = children.reported view banned false := by
  simp [reported, hkind]

end Forest

/-! ## The walk and the rule -/

namespace Node

open SyntaxTree

variable {α : Type} {view : α → NodeLabel} {F : Forest α} (n : Node (ofForest view F))

/-- The children of a node are labelled like the topmost nodes of what is below it. -/
theorem map_label_children :
    n.children.map label = n.entry.children.rootLabels.map view := by
  rw [← Forest.map_label_rootEntries, ← map_entry_children, List.map_map, List.map_map]
  exact List.map_congr_left fun c _ => label_ofForest c

/-- The findings of a label by its children. -/
theorem findings_eq_reported (banned : BannedPhrases) :
    n.findings banned =
      (view n.entry.label).reported banned (n.entry.children.rootLabels.map view) := by
  have hruns : n.textRuns = n.children.filter (NodeLabel.isRun ∘ label) := rfl
  have hfinding : (fun run : Node (ofForest view F) => (⟨run.start, n.text⟩ : Finding)) =
      (fun run : NodeLabel => ⟨run.start, n.label.text⟩) ∘ label := rfl
  rw [NodeLabel.reported, ← map_label_children, ← n.label_ofForest, List.filter_map, List.map_map,
    ← hfinding, ← hruns, findings]
  by_cases h : normalize n.text ∈ banned
  · have hlabel : normalize n.label.text ∈ banned := h
    rw [if_pos hlabel]
    cases hnil : n.textRuns with
    | nil => simp
    | cons run runs => simp [h]
  · have hlabel : normalize n.label.text ∉ banned := h
    rw [if_neg hlabel]
    simp [h]

/-- A node without a parent is in no link. -/
theorem inLink_of_parent_eq_none (h : n.entry.parent = none) : n.inLink = false := by
  rw [← map_id_parent?, Option.map_eq_none_iff] at h
  rw [inLink, h]
  rfl

/-- A child is in a link if its parent is one. -/
theorem inLink_of_parent_eq_some {p : Node (ofForest view F)} (h : n.entry.parent = some p.id) :
    n.inLink = decide (p.kind = linkKind) := by
  rw [inLink, entry_parent_eq_some_iff.mp h]
  rfl

/-- **The rule follows the walk** through every part `G` of a forest whose topmost nodes have the
same parent. The induction is on that part. -/
theorem flatMap_findings_eq (banned : BannedPhrases) {G : Forest α} {parent : Option Nat} {id : Nat}
    {linked : Bool} {ns : List (Node (ofForest view F))} (hns : ns.map entry = G.entries parent id)
    (hlinked : ∀ n : Node (ofForest view F), n.entry.parent = parent → n.inLink = linked) :
    ((ns.filter fun n => n.kind = labelKind).filter inLink).flatMap (fun n => n.findings banned) =
      G.reported view banned linked := by
  induction G generalizing parent id linked ns with
  | nil =>
    rw [List.map_eq_nil_iff.mp hns]
    rfl
  | cons label children rest ihc ihr =>
    obtain ⟨n, ms, rfl, hn, hms⟩ := List.map_eq_cons_iff.mp hns
    obtain ⟨below, after, rfl, hbelow, hafter⟩ := List.map_eq_append_iff.mp hms
    have hid : n.id = id := by rw [← id_entry, hn]
    have hkind : n.kind = (view label).kind := by rw [kind_eq, hn]
    have hinLink : n.inLink = linked := hlinked n (by rw [hn])
    have hfindings : n.findings banned =
        (view label).reported banned (children.rootLabels.map view) := by
      rw [findings_eq_reported, hn]
    -- The parent of the nodes below is `n` itself, and the nodes after it have the parent of `n`.
    have hchildren : ∀ c : Node (ofForest view F), c.entry.parent = some id →
        c.inLink = decide ((view label).kind = linkKind) := by
      intro c hc
      rw [← hkind]
      exact c.inLink_of_parent_eq_some (hc.trans (congrArg some hid.symm))
    rw [Forest.reported, ← ihc hbelow hchildren, ← ihr hafter hlinked, ← hfindings, ← hkind,
      ← hinLink]
    by_cases hlabel : n.kind = labelKind <;> cases hlink : n.inLink <;>
      simp [hlabel, hlink]

end Node

open SyntaxTree

/-- **The findings in the tree of a forest** are those of the walk through the forest. -/
theorem findings_ofForest {α : Type} (view : α → NodeLabel) (F : Forest α)
    (banned : BannedPhrases) :
    findings (.ofTree (ofForest view F)) banned = F.reported view banned false := by
  rw [findings, KindIndex.nodesOfKinds_singleton]
  exact Node.flatMap_findings_eq banned Node.map_entry_allNodes fun n => n.inLink_of_parent_eq_none

/-! ## Documents -/

namespace Token

theorem forest_append (xs ys : List Token) :
    forest (xs ++ ys) = (forest xs).append (forest ys) := by
  induction xs with
  | nil => rw [List.nil_append, forest_nil, Forest.nil_append]
  | cons t xs ih =>
    obtain ⟨kind, text, start, children⟩ := t
    rw [List.cons_append, forest_cons, forest_cons, ih, Forest.cons_append]

end Token

/-- The findings in the tree of some tokens. -/
theorem value_lint_ofTokens (tokens : List Token) (options : RuleOptions) :
    (lint (ofTokens tokens) options).value =
      if options.enabled then
        (Token.forest tokens).reported (fun l => l) options.bannedPhrases false
      else [] := by
  rw [value_lint, ofTokens_eq_ofForest, findings_ofForest]

/-- **Findings are compositional**: in tokens that stand one after the other the findings are those
of the former and then those of the latter, and a token around others that is not a link changes
nothing, whatever its type, its text and its place. The trees are those that the tokens give when
there are ids for all of them. -/
theorem lint_append_and_wrap (options : RuleOptions) :
    (∀ tokens, load? tokens =
      if Token.forestSize tokens ≤ maxNodes then some (ofTokens tokens) else none) ∧
    (∀ xs ys : List Token, (lint (ofTokens (xs ++ ys)) options).value =
      (lint (ofTokens xs) options).value ++ (lint (ofTokens ys) options).value) ∧
    ∀ w : Token, w.kind ≠ some linkKind →
      (lint (ofTokens [w]) options).value = (lint (ofTokens w.children) options).value := by
  refine ⟨load?_eq, fun xs ys => ?_, fun w hw => ?_⟩
  · rw [value_lint_ofTokens, value_lint_ofTokens, value_lint_ofTokens, Token.forest_append,
      Forest.reported_append]
    split <;> rfl
  · obtain ⟨kind, text, start, children⟩ := w
    have hkind : kind.getD "" ≠ linkKind := by
      cases kind with
      | none => decide
      | some kind => exact fun h => hw (congrArg some h)
    rw [value_lint_ofTokens, value_lint_ofTokens, Token.forest_cons, Token.forest_nil,
      Forest.reported_singleton (fun l => l) options.bannedPhrases hkind]

/-- A label around a run of text, a label without a link and a link: neither the run nor the label
inside becomes part of a link by it. -/
theorem lint_label_around_label :
    let run : Token := ⟨some labelTextKind, "here", ⟨1, 2⟩, []⟩
    let label : Token := ⟨some labelKind, "[here]", ⟨1, 1⟩, [run]⟩
    let link : Token := ⟨some linkKind, "[here](x)", ⟨1, 1⟩, [label]⟩
    let around : Token := { label with children := [run, label, link] }
    around.kind ≠ some linkKind ∧
      (lint (ofTokens [around]) {}).value = (lint (ofTokens [run, label, link]) {}).value ∧
      (lint (ofTokens [around]) {}).value = [⟨⟨1, 2⟩, "[here]"⟩] := by
  intro run label link around
  have hkind : around.kind ≠ some linkKind := by decide
  have hwrap := (lint_append_and_wrap {}).2.2 around hkind
  refine ⟨hkind, hwrap, ?_⟩
  rw [hwrap]
  decide +kernel

end DescriptiveLinks
