import Mathlib.Data.List.Forall2
import DescriptiveLinks.Proofs.Tree.Produced
import DescriptiveLinks.Proofs.Tree.Query
import DescriptiveLinks.Rule.Finding

/-! # What is reported

The findings of a document are those of certain nodes: the runs of text with a place in the source
whose label belongs to a link and comes down to a banned phrase.

* `Node.IsReported` says which nodes these are.
* `reportedRuns` lists them as the rule meets them, and `findings_eq_map` says that each of them is
  one finding.
* `value_lint` puts it together for the options of the rule. -/

namespace DescriptiveLinks

variable {tree : SyntaxTree}

/-! ## Reported nodes -/

namespace Node

/-- Whether a node is a **run of text to report** where some phrases are banned. -/
def IsReported (banned : BannedPhrases) (t : Node tree) : Prop :=
  t.kind = labelTextKind ∧ 0 < t.start.line ∧
    ∃ label, t.parent? = some label ∧ label.kind = labelKind ∧
      (∃ link, label.parent? = some link ∧ link.kind = linkKind) ∧ normalize label.text ∈ banned

/-- Whether a run of text comes before another: its label has the smaller id, or they have the same
label, which lists it first. -/
def IsReportedBefore (t u : Node tree) : Prop :=
  ∀ label other, t.parent? = some label → u.parent? = some other →
    label.id < other.id ∨ label = other ∧ [t, u].Sublist label.children

/-- The finding of a run of text in a label. -/
def finding (t : Node tree) : Finding :=
  ⟨t.start, (t.parent?.map text).getD ""⟩

/-- The runs of a label that are reported: all of them, or none. -/
def reportedRuns (banned : BannedPhrases) (label : Node tree) : List (Node tree) :=
  if normalize label.text ∈ banned then label.textRuns else []

variable {banned : BannedPhrases} {label t : Node tree}

theorem finding_of_parent? (hparent : t.parent? = some label) :
    t.finding = ⟨t.start, label.text⟩ := by
  rw [finding, hparent]
  rfl

theorem inLink_iff : label.inLink ↔ ∃ link, label.parent? = some link ∧ link.kind = linkKind := by
  simp [inLink, Option.any_eq_true]

theorem mem_textRuns_iff :
    t ∈ label.textRuns ↔ t ∈ label.children ∧ t.kind = labelTextKind ∧ 0 < t.start.line := by
  simp [textRuns]

theorem mem_reportedRuns_iff :
    t ∈ label.reportedRuns banned ↔ t ∈ label.textRuns ∧ normalize label.text ∈ banned := by
  rw [reportedRuns]
  by_cases h : normalize label.text ∈ banned
  · simp [h]
  · simp [h]

/-- The findings of a label are those of its runs. That a label without runs is not compared makes
no difference. -/
theorem findings_eq_map (htree : tree.IsForest) (label : Node tree) (banned : BannedPhrases) :
    label.findings banned = (label.reportedRuns banned).map finding := by
  have hfinding : ∀ t ∈ label.textRuns, t.finding = ⟨t.start, label.text⟩ := by
    intro t ht
    exact finding_of_parent? (htree.parent?_eq_some_iff.mpr (mem_textRuns_iff.mp ht).1)
  rw [findings, reportedRuns]
  -- The label of every run is its parent, so `finding` finds the same text.
  by_cases h : normalize label.text ∈ banned
  · cases hruns : label.textRuns with
    | nil => simp
    | cons t ts =>
      rw [hruns] at hfinding
      rw [if_pos h, List.map_congr_left hfinding]
      simp [h]
  · simp [h]

/-- The runs of a label are in the order of its children. -/
theorem pairwise_reportedRuns (htree : tree.IsForest) (banned : BannedPhrases)
    (label : Node tree) :
    (label.reportedRuns banned).Pairwise fun t u => t ≠ u ∧ t.IsReportedBefore u := by
  have hsublist : (label.reportedRuns banned).Sublist label.children := by
    rw [reportedRuns]
    split
    · exact List.filter_sublist
    · exact List.nil_sublist _
  refine List.pairwise_iff_forall_sublist.mpr fun {t u} htu => ?_
  have hchildren := htu.trans hsublist
  have hid := List.pairwise_iff_forall_sublist.mp (htree.pairwise_children label) hchildren
  refine ⟨fun heq => Nat.lt_irrefl t.id (heq ▸ hid), ?_⟩
  intro l m hl hm
  have ht := htree.parent?_eq_some_iff.mpr (hchildren.subset List.mem_cons_self)
  have hu := htree.parent?_eq_some_iff.mpr
    (hchildren.subset (List.mem_cons_of_mem t List.mem_cons_self))
  obtain rfl : label = l := Option.some_inj.mp (ht.symm.trans hl)
  obtain rfl : label = m := Option.some_inj.mp (hu.symm.trans hm)
  exact .inr ⟨rfl, hchildren⟩

end Node

/-! ## The walk of the rule -/

/-- The runs of text to report, as the rule meets them. -/
def reportedRuns (tree : SyntaxTree) (banned : BannedPhrases) : List (Node tree) :=
  ((tree.allNodes.filter fun n => n.kind = labelKind).filter Node.inLink).flatMap
    fun label => label.reportedRuns banned

/-- **The findings of a document** are those of the runs to report. -/
theorem findings_eq_map (htree : tree.IsForest) (banned : BannedPhrases) :
    findings (.ofTree tree) banned = (reportedRuns tree banned).map Node.finding := by
  rw [findings, KindIndex.nodesOfKinds_singleton, reportedRuns, List.map_flatMap]
  exact List.flatMap_congr fun label _ => label.findings_eq_map htree banned

/-- **The runs to report** are those that the rule meets. -/
theorem mem_reportedRuns_iff (htree : tree.IsForest) {banned : BannedPhrases} {t : Node tree} :
    t ∈ reportedRuns tree banned ↔ t.IsReported banned := by
  simp only [reportedRuns, List.mem_flatMap, List.mem_filter, SyntaxTree.mem_allNodes, true_and,
    decide_eq_true_eq, Node.inLink_iff, Node.mem_reportedRuns_iff, Node.mem_textRuns_iff,
    ← htree.parent?_eq_some_iff, Node.IsReported]
  constructor
  · rintro ⟨label, ⟨hkind, hlink⟩, ⟨hparent, ht, hline⟩, hbanned⟩
    exact ⟨ht, hline, label, hparent, hkind, hlink, hbanned⟩
  · rintro ⟨ht, hline, label, hparent, hkind, hlink, hbanned⟩
    exact ⟨label, ⟨hkind, hlink⟩, ⟨hparent, ht, hline⟩, hbanned⟩

/-- A document has findings where it has a run of text to report. -/
theorem findings_ne_nil_iff {tree : SyntaxTree} (htree : tree.IsForest) {banned : BannedPhrases} :
    findings (.ofTree tree) banned ≠ [] ↔ ∃ t : Node tree, t.IsReported banned := by
  rw [findings_eq_map htree, ne_eq, List.map_eq_nil_iff, List.eq_nil_iff_forall_not_mem]
  simp only [mem_reportedRuns_iff htree, not_forall, not_not]

/-- **The order of the report**: labels in document order, and inside each of them its children. No
run is met twice. -/
theorem pairwise_reportedRuns (htree : tree.IsForest) (banned : BannedPhrases) :
    (reportedRuns tree banned).Pairwise fun t u => t ≠ u ∧ t.IsReportedBefore u := by
  rw [reportedRuns, List.pairwise_flatMap]
  refine ⟨fun label _ => label.pairwise_reportedRuns htree banned, ?_⟩
  -- Runs of different labels have different parents.
  refine ((tree.pairwise_allNodes.filter _).filter _).imp fun {l m} hlm t ht u hu => ?_
  have hl := htree.parent?_eq_some_iff.mpr
    (Node.mem_textRuns_iff.mp (Node.mem_reportedRuns_iff.mp ht).1).1
  have hm := htree.parent?_eq_some_iff.mpr
    (Node.mem_textRuns_iff.mp (Node.mem_reportedRuns_iff.mp hu).1).1
  constructor
  · rintro rfl
    obtain rfl : l = m := Option.some_inj.mp (hl.symm.trans hm)
    exact Nat.lt_irrefl _ hlm
  · intro label other hlabel hother
    obtain rfl : l = label := Option.some_inj.mp (hl.symm.trans hlabel)
    obtain rfl : m = other := Option.some_inj.mp (hm.symm.trans hother)
    exact .inl hlm

/-! ## The report -/

theorem foldl_count {α σ : Type} (f : σ → α → σ) (xs : List α) (state : σ) (count : Nat) :
    xs.foldl (fun (state, count) x => (f state x, count + 1)) (state, count)
      = (xs.foldl f state, count + xs.length) := by
  induction xs generalizing state count with
  | nil => rfl
  | cons x xs ih =>
    rw [List.foldl_cons, List.foldl_cons, ih, List.length_cons, Nat.add_right_comm, Nat.add_assoc]

/-- Whoever receives the findings gets each of them once, in order, and their number in the end. -/
theorem reportFindings_eq {σ : Type} (index : KindIndex tree) (banned : BannedPhrases)
    (report : σ → Finding → σ) (state : σ) :
    reportFindings index banned report state
      = ((findings index banned).foldl report state, (findings index banned).length) := by
  rw [reportFindings, foldl_count, Nat.zero_add]

/-- A check gives all findings, or none if the rule is disabled. -/
theorem value_lint (tree : SyntaxTree) (options : RuleOptions) :
    (lint tree options).value
      = if options.enabled then findings (.ofTree tree) options.bannedPhrases else [] := by
  rw [lint]
  split
  · simp [reportFindings_eq]
  · rfl

/-- The findings of an enabled rule are those of the runs to report. -/
theorem value_lint_of_enabled (htree : tree.IsForest) {options : RuleOptions}
    (henabled : options.enabled = true) :
    (lint tree options).value = (reportedRuns tree options.bannedPhrases).map Node.finding := by
  rw [value_lint, if_pos henabled, findings_eq_map htree]

theorem finding_mem_lint (htree : tree.IsForest) (options : RuleOptions)
    (henabled : options.enabled = true) {t : Node tree} (ht : t.IsReported options.bannedPhrases) :
    t.finding ∈ (lint tree options).value := by
  rw [value_lint_of_enabled htree henabled]
  exact List.mem_map_of_mem ((mem_reportedRuns_iff htree).mpr ht)

theorem exists_isReported_of_mem_lint (htree : tree.IsForest)
    {options : RuleOptions} {f : Finding} (hf : f ∈ (lint tree options).value) :
    ∃ t : Node tree, t.IsReported options.bannedPhrases ∧ t.finding = f := by
  cases henabled : options.enabled with
  | false =>
    rw [value_lint, henabled] at hf
    cases hf
  | true =>
    rw [value_lint_of_enabled htree henabled, List.mem_map] at hf
    obtain ⟨t, ht, rfl⟩ := hf
    exact ⟨t, (mem_reportedRuns_iff htree).mp ht, rfl⟩

/-- **What is reported**: nothing if the rule is disabled, and otherwise one finding for each run of
text to report, in order. -/
theorem exists_runs_of_lint (htree : tree.Produced) (options : RuleOptions) :
    (options.enabled = false → (lint tree options).value = []) ∧
    (options.enabled = true → ∃ runs : List (Node tree),
      runs.Nodup ∧ (∀ t, t ∈ runs ↔ t.IsReported options.bannedPhrases) ∧
      runs.Pairwise Node.IsReportedBefore ∧
      List.Forall₂ (fun t f => ∃ label, t.parent? = some label ∧ f.start = t.start ∧
        f.text = label.text ∧ f.length = label.text.length) runs (lint tree options).value ∧
      ∀ (σ : Type) (report : σ → Finding → σ) (state : σ),
        reportFindings (.ofTree tree) options.bannedPhrases report state
          = ((lint tree options).value.foldl report state, (lint tree options).value.length)) := by
  refine ⟨fun h => by rw [value_lint, h]; rfl, fun h => ?_⟩
  have hpairwise := pairwise_reportedRuns htree.isForest options.bannedPhrases
  rw [value_lint, if_pos h]
  refine ⟨reportedRuns tree options.bannedPhrases, hpairwise.imp And.left,
    fun t => mem_reportedRuns_iff htree.isForest, hpairwise.imp And.right, ?_,
    fun σ report state => reportFindings_eq _ _ _ _⟩
  rw [findings_eq_map htree.isForest, List.forall₂_map_right_iff, List.forall₂_same]
  intro t ht
  obtain ⟨-, -, label, hlabel, -⟩ := (mem_reportedRuns_iff htree.isForest).mp ht
  refine ⟨label, hlabel, rfl, ?_⟩
  simp [Node.finding, Finding.length, hlabel]

/-- A link with a banned label has a finding at the text inside the brackets. -/
theorem exists_runs_of_link :
    ∃ tree : SyntaxTree, tree.Produced ∧ ∃ runs : List (Node tree), (∃ t ∈ runs, t.id = 2) ∧
      List.Forall₂ (fun t f => ∃ label, t.parent? = some label ∧ f.start = t.start ∧
        f.text = label.text ∧ f.length = label.text.length) runs (lint tree {}).value := by
  have h : ((Builder.ofSource "[here](x)").run [.openNode "link" 0, .openNode "label" 0,
      .token "labelText" ⟨1, 5⟩, .closeNode 6, .closeNode 9]).2.finish = .ok _ := rfl
  obtain ⟨runs, -, hruns, -, hfindings, -⟩ := (exists_runs_of_lint (.built h) {}).2 rfl
  refine ⟨_, .built h, runs, ⟨⟨2, by decide⟩, ?_, rfl⟩, hfindings⟩
  exact (hruns _).mpr ⟨rfl, Nat.succ_pos _, ⟨1, by decide⟩, rfl, rfl, ⟨⟨0, by decide⟩, rfl, rfl⟩,
    by decide⟩

end DescriptiveLinks
