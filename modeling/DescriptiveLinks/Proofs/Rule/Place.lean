import DescriptiveLinks.Proofs.Rule.Report
import DescriptiveLinks.Proofs.Text.Position
import DescriptiveLinks.Proofs.Tree.Spans

/-! # Where findings point

A finding has the position of a run of text and the text of the label around it. In a tree that has
been built over a source, the position is that of one place in the source, inside the label. The
range that is reported begins there and has the length of the whole label, so that it ends as many
characters behind the label as the run is behind the beginning of the label.

* `Finding.PointsInto` relates a finding to the span of its label.
* `exists_runs_pointingInto` says it of all findings of a built tree, and that no run of text is
  left out for want of a place.
* `lastColumn_le_lineLength_iff` says which ranges stay on their line. -/

namespace DescriptiveLinks

/-- A finding **points into** a span of a source: its text is what the span covers, and its position
is that of one place between characters, which the span holds. -/
structure Finding.PointsInto (f : Finding) (source : String) (s : Span) : Prop where
  /-- The text is that of the span. -/
  slice?_eq : Text.slice? s.start s.stop source.toList = some f.text.toList
  /-- There is one offset with the position. -/
  existsUnique_offset : ∃! o, Text.IsBoundary source.toList o ∧
    (LineIndex.ofSource source.toList).position o = f.start
  /-- The span holds this offset. -/
  mem_span {o : Nat} (ho : Text.IsBoundary source.toList o)
    (hposition : (LineIndex.ofSource source.toList).position o = f.start) :
    s.start ≤ o ∧ o ≤ s.stop

/-- The last column of the range that is reported. -/
def Finding.lastColumn (f : Finding) : Nat :=
  f.start.column + f.length - 1

/-- Whether a node is the **label of a link**. -/
def Node.IsLinkLabel {tree : SyntaxTree} (label : Node tree) : Prop :=
  label.kind = labelKind ∧ ∃ link, label.parent? = some link ∧ link.kind = linkKind

/-! ## Spans of runs and labels -/

namespace SyntaxTree.CoveredBy

variable {source : String} {tree : SyntaxTree} {span : Node tree → Span} {t label n : Node tree}

theorem line_pos (h : tree.CoveredBy source span) (n : Node tree) : 0 < n.start.line := by
  rw [h.start_eq]
  exact Nat.succ_pos _

/-- The start of a node is known from its position. -/
theorem eq_of_position_eq (h : tree.CoveredBy source span) {o : Nat}
    (ho : Text.IsBoundary source.toList o)
    (hposition : (LineIndex.ofSource source.toList).position o = n.start) : o = (span n).start := by
  rw [h.start_eq] at hposition
  exact LineIndex.eq_of_position_eq ho (h.isBoundary_start n) hposition

/-- The finding of a run in a label points into the label. -/
theorem pointsInto (h : tree.CoveredBy source span) (hparent : t.parent? = some label) :
    Finding.PointsInto ⟨t.start, label.text⟩ source (span label) where
  slice?_eq := Text.slice?_eq_some_iff.mpr (h.text_eq label)
  existsUnique_offset :=
    ⟨(span t).start, ⟨h.isBoundary_start t, (h.start_eq t).symm⟩, fun _ ho =>
      h.eq_of_position_eq ho.1 ho.2⟩
  mem_span ho hposition := by
    obtain rfl := h.eq_of_position_eq ho hposition
    obtain ⟨hstart, hstop⟩ := h.child_inside hparent
    exact ⟨hstart, Nat.le_trans (h.start_le_stop t) hstop⟩

/-- Every run of text in a banned label is reported, since every node has a place. -/
theorem isReported_iff (h : tree.CoveredBy source span) (banned : BannedPhrases) :
    t.IsReported banned ↔ t.kind = labelTextKind ∧
      ∃ label, t.parent? = some label ∧ label.IsLinkLabel ∧ normalize label.text ∈ banned := by
  simp only [Node.IsReported, Node.IsLinkLabel, h.line_pos, true_and, and_assoc]

/-- A run begins somewhere in the text of its label. -/
theorem exists_text_eq_append (h : tree.CoveredBy source span) (hparent : t.parent? = some label) :
    ∃ before left right after, source.toList = before ++ (left ++ right) ++ after ∧
      label.text.toList = left ++ right ∧ Text.byteLength before = (span label).start ∧
      Text.byteLength (before ++ left) = (span t).start := by
  obtain ⟨before, after, hsource, hstart, hstop⟩ := h.text_eq label
  obtain ⟨hlow, hhigh⟩ := h.child_inside hparent
  have horder := h.start_le_stop t
  have hrun := h.isBoundary_start t
  rw [hsource] at hrun
  obtain ⟨left, right, htext, hoffset⟩ := hrun.exists_eq_append (by omega) (by omega)
  exact ⟨before, left, right, after, htext ▸ hsource, htext, hstart, hoffset⟩

/-- A label without line feeds, and a run in it, lie on one line, which goes on behind the label. -/
theorem exists_line_eq (h : tree.CoveredBy source span) (hparent : t.parent? = some label)
    (hfeed : '\n' ∉ label.text.toList) :
    ∃ before after, source.toList = before ++ label.text.toList ++ after ∧
      (LineIndex.ofSource source.toList).position (Text.byteLength before) = label.start ∧
      label.start.line = t.start.line ∧ label.start.column ≤ t.start.column ∧
      Text.lineLength source.toList t.start.line + 1
        = label.start.column + label.text.length + (Text.firstLine after).length := by
  obtain ⟨before, left, right, after, hsource, htext, hstart, hoffset⟩ :=
    h.exists_text_eq_append hparent
  -- There is no line feed between the two, so the run is on the line that the label starts on.
  have hleft : '\n' ∉ left := fun hmem => hfeed (htext ▸ List.mem_append_left _ hmem)
  have hlabelStart : label.start = ⟨before.count '\n' + 1, (Text.lastLine before).length + 1⟩ := by
    rw [h.start_eq, hsource, List.append_assoc, ← hstart, LineIndex.position_eq]
  have hrunStart : t.start
      = ⟨before.count '\n' + 1, (Text.lastLine before).length + left.length + 1⟩ := by
    rw [h.start_eq, hsource, ← List.append_assoc, List.append_assoc, ← hoffset,
      LineIndex.position_append_of_not_mem before hleft]
  have hline : Text.lineLength source.toList (before.count '\n' + 1)
      = (Text.lastLine before).length + label.text.length + (Text.firstLine after).length := by
    rw [hsource, ← htext, Text.lineLength_append_of_not_mem before hfeed, String.length_toList]
  refine ⟨before, after, htext ▸ hsource, by rw [h.start_eq, hstart], ?_⟩
  rw [hlabelStart, hrunStart, hline]
  dsimp only
  omega

end SyntaxTree.CoveredBy

/-! ## Places -/

/-- **Findings point at places in the source**: in a built tree, each finding points into the label
of a link, and each run of text in such a label with a banned phrase has a finding. -/
theorem exists_runs_pointingInto {source : String} {calls : List Builder.Call} {tree : SyntaxTree}
    (h : ((Builder.ofSource source).run calls).2.finish = .ok tree) (options : RuleOptions)
    (henabled : options.enabled = true) :
    ∃ span, tree.CoveredBy source span ∧ ∃ runs : List (Node tree), runs.Nodup ∧
      (∀ t, t ∈ runs ↔ t.kind = labelTextKind ∧ ∃ label, t.parent? = some label ∧
        label.IsLinkLabel ∧ normalize label.text ∈ options.bannedPhrases) ∧
      List.Forall₂ (fun t f => ∃ label, t.parent? = some label ∧ label.IsLinkLabel ∧
        f.start = t.start ∧ f.PointsInto source (span label)) runs (lint tree options).value := by
  obtain ⟨F, rfl, hfits, -⟩ := Builder.exists_forest_of_finish h
  have hspan := hfits.coveredBy
  have htree := SyntaxTree.isForest_ofForest (Piece.label (.ofSource source.toList)) F
  have hmem (t) := (mem_reportedRuns_iff htree (t := t)).trans
    (hspan.isReported_iff options.bannedPhrases)
  refine ⟨Node.span, hspan, reportedRuns _ options.bannedPhrases,
    (pairwise_reportedRuns htree _).imp And.left, hmem, ?_⟩
  rw [value_lint_of_enabled htree henabled, List.forall₂_map_right_iff, List.forall₂_same]
  intro t ht
  obtain ⟨-, label, hparent, hlabel, -⟩ := (hmem t).mp ht
  rw [Node.finding_of_parent? hparent]
  exact ⟨label, hparent, hlabel, rfl, hspan.pointsInto hparent⟩

/-- The finding of a label on the second line of a source whose first line has a character of two
bytes. -/
theorem exists_runs_pointingInto_of_link :
    ∃ tree span, SyntaxTree.CoveredBy "é\n[here](x)" tree span ∧ ∃ runs : List (Node tree),
      (∃ t ∈ runs, t.id = 2) ∧
      List.Forall₂ (fun t f => ∃ label, t.parent? = some label ∧ label.IsLinkLabel ∧
        f.start = t.start ∧ f.PointsInto "é\n[here](x)" (span label)) runs
        (lint tree {}).value := by
  have h : ((Builder.ofSource "é\n[here](x)").run [.openNode "link" 3, .openNode "label" 3,
      .token "labelText" ⟨4, 8⟩, .closeNode 9, .closeNode 12]).2.finish = .ok _ := rfl
  obtain ⟨span, hspan, runs, -, hruns, hfindings⟩ := exists_runs_pointingInto h {} rfl
  refine ⟨_, span, hspan, runs, ⟨⟨2, by decide⟩, ?_, rfl⟩, hfindings⟩
  exact (hruns _).mpr ⟨rfl, ⟨1, by decide⟩, rfl, ⟨rfl, ⟨0, by decide⟩, rfl, rfl⟩, by decide⟩

/-! ## Ranges -/

/-- **Which ranges stay on their line**: that of a finding without line feeds does if and only if
the label is followed by as many characters on the line as there are between its beginning and the
run. The range that begins with the label always does. -/
theorem lastColumn_le_lineLength_iff {source : String} {calls : List Builder.Call}
    {tree : SyntaxTree} (h : ((Builder.ofSource source).run calls).2.finish = .ok tree)
    {options : RuleOptions} {f : Finding} (hf : f ∈ (lint tree options).value)
    (hfeed : '\n' ∉ f.text.toList) :
    ∃ t label : Node tree, t.kind = labelTextKind ∧ t.parent? = some label ∧ label.IsLinkLabel ∧
      t.start = f.start ∧ label.text = f.text ∧ ∃ before after, source.toList = before ++ f.text.toList ++ after ∧
      (LineIndex.ofSource source.toList).position (Text.byteLength before) = label.start ∧
      label.start.line = f.start.line ∧ label.start.column ≤ f.start.column ∧
      f.lastColumn ≤ Text.lineLength source.toList f.start.line
        + (f.start.column - label.start.column) ∧
      (f.lastColumn ≤ Text.lineLength source.toList f.start.line ↔
        f.start.column - label.start.column ≤ (Text.firstLine after).length) := by
  obtain ⟨F, rfl, hfits, -⟩ := Builder.exists_forest_of_finish h
  have hspan := hfits.coveredBy
  obtain ⟨t, ht, rfl⟩ := exists_isReported_of_mem_lint (SyntaxTree.isForest_ofForest _ F) hf
  obtain ⟨hkind, label, hparent, hlabel, -⟩ := (hspan.isReported_iff _).mp ht
  rw [Node.finding_of_parent? hparent] at hfeed ⊢
  obtain ⟨before, after, hsource, hbefore, hline, hcolumn, hlength⟩ :=
    hspan.exists_line_eq hparent hfeed
  refine ⟨t, label, hkind, hparent, hlabel, rfl, rfl, before, after, hsource, hbefore, hline,
    hcolumn, ?_⟩
  rw [Finding.lastColumn, Finding.length]
  dsimp only
  omega

/-- The range of a finding whose label is followed by the destination of the link. -/
theorem exists_lastColumn_le_of_link :
    ∃ tree, ∃ f ∈ (lint tree {}).value, ∃ t label : Node tree, t.kind = labelTextKind ∧
      t.parent? = some label ∧ t.start = f.start ∧ label.start.line = f.start.line ∧
      f.lastColumn ≤ Text.lineLength "[here](x)".toList f.start.line
        + (f.start.column - label.start.column) := by
  have h : ((Builder.ofSource "[here](x)").run [.openNode "link" 0, .openNode "label" 0,
      .token "labelText" ⟨1, 5⟩, .closeNode 6, .closeNode 9]).2.finish = .ok _ := rfl
  have hmem := finding_mem_lint (SyntaxTree.Produced.built h).isForest {} rfl (t := ⟨2, by decide⟩)
    ⟨rfl, Nat.succ_pos _, ⟨1, by decide⟩, rfl, rfl, ⟨⟨0, by decide⟩, rfl, rfl⟩, by decide⟩
  obtain ⟨t, label, hkind, hparent, -, hstart, -, -, -, -, -, hline, -, hle, -⟩ :=
    lastColumn_le_lineLength_iff h hmem (by decide)
  exact ⟨_, _, hmem, t, label, hkind, hparent, hstart, hline, hle⟩

/-- A label at the end of a line, where the range is too long. -/
theorem not_always_lastColumn_le :
    ¬ ∀ (source : String) (calls : List Builder.Call) (tree : SyntaxTree) (options : RuleOptions)
      (f : Finding), ((Builder.ofSource source).run calls).2.finish = .ok tree →
      options.enabled = true → f ∈ (lint tree options).value → '\n' ∉ f.text.toList →
      f.lastColumn ≤ Text.lineLength source.toList f.start.line := by
  intro hfits
  have h : ((Builder.ofSource "[here]").run [.openNode "link" 0, .openNode "label" 0,
      .token "labelText" ⟨1, 5⟩, .closeNode 6, .closeNode 6]).2.finish = .ok _ := rfl
  have hmem := finding_mem_lint (SyntaxTree.Produced.built h).isForest {} rfl (t := ⟨2, by decide⟩)
    ⟨rfl, Nat.succ_pos _, ⟨1, by decide⟩, rfl, rfl, ⟨⟨0, by decide⟩, rfl, rfl⟩, by decide⟩
  have hle := hfits _ _ _ {} ⟨(LineIndex.ofSource "[here]".toList).position 1, "[here]"⟩ h rfl hmem
    (by decide)
  have hposition : (LineIndex.ofSource "[here]".toList).position 1 = ⟨1, 2⟩ :=
    LineIndex.position_eq ['['] ['h', 'e', 'r', 'e', ']']
  rw [hposition] at hle
  exact absurd hle (by decide)

end DescriptiveLinks
