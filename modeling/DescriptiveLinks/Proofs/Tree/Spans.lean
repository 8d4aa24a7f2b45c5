import DescriptiveLinks.Proofs.Tree.Ancestors
import DescriptiveLinks.Proofs.Tree.Draft

/-! # The spans of a built tree

A builder refuses a call by comparing an offset with a single other offset. That is enough: in the
tree that it gives in the end, every node covers a span of the source, children lie inside their
parents, and nodes side by side do not overlap.

* `SyntaxTree.CoveredBy` says this of a tree and its spans.
* `SyntaxTree.exists_coveredBy_of_finish` gives the spans of a built tree, whose ends are the
  offsets of its calls. -/

namespace DescriptiveLinks

namespace Forest

variable {source : List Char} {low : Nat} {F : Forest Piece} {parent : Option Nat} {id : Nat}

/-! ## Pieces in order -/

/-- The pieces of a forest lie between its bounds, and each is a part of the source. -/
theorem Fits.of_mem (h : F.Fits source low) {e : Entry Piece} (he : e ∈ F.entries parent id) :
    low ≤ e.label.span.start ∧ e.label.span.stop ≤ F.lastStop low ∧
      ∃ part, Text.slice? e.label.span.start e.label.span.stop source = some part := by
  induction F generalizing low parent id with
  | nil => cases he
  | cons p children rest ihc ihr =>
    obtain ⟨hlow, hslice, hchildren, hstop, hrest⟩ := h
    have hle := hchildren.le_lastStop
    have hlast : p.span.stop ≤ (cons p children rest).lastStop low := hrest.le_lastStop
    rcases mem_entries_cons.mp he with rfl | he | he
    · exact ⟨hlow, hlast, hslice⟩
    · obtain ⟨hstart, hstop', hpart⟩ := ihc hchildren he
      exact ⟨by omega, by omega, hpart⟩
    · obtain ⟨hstart, hstop', hpart⟩ := ihr hrest he
      exact ⟨by omega, hstop', hpart⟩

/-- **Nesting of pieces**: of two pieces in document order, the later lies inside the earlier if it
is below it, and otherwise starts where the earlier ends or later. -/
theorem Fits.pairwise (h : F.Fits source low) :
    (F.entries parent id).Pairwise fun d e =>
      (e.id ≤ d.last → d.label.span.start ≤ e.label.span.start ∧
        e.label.span.stop ≤ d.label.span.stop) ∧
      (d.last < e.id → d.label.span.stop ≤ e.label.span.start) := by
  induction F generalizing low parent id with
  | nil => exact List.Pairwise.nil
  | cons p children rest ihc ihr =>
    obtain ⟨-, -, hchildren, hstop, hrest⟩ := h
    rw [entries, List.pairwise_cons, List.pairwise_append]
    refine ⟨?_, ihc hchildren, ihr hrest, ?_⟩
    -- The first piece holds its children and ends before the rest.
    · intro e he
      show (e.id ≤ id + children.size → _) ∧ (id + children.size < e.id → _)
      rcases List.mem_append.mp he with he | he
      · have hid := id_bounds he
        obtain ⟨hstart, hstop', -⟩ := hchildren.of_mem he
        exact ⟨fun _ => ⟨hstart, Nat.le_trans hstop' hstop⟩, fun hlt => by omega⟩
      · have hid := id_bounds he
        obtain ⟨hstart, -⟩ := hrest.of_mem he
        exact ⟨fun hle => by omega, fun _ => hstart⟩
    -- What is below the first piece ends where it ends or before.
    · intro d hd e he
      have hlast := last_lt hd
      have hid := id_bounds he
      obtain ⟨-, hstop', -⟩ := hchildren.of_mem hd
      obtain ⟨hstart, -⟩ := hrest.of_mem he
      exact ⟨fun hle => by omega, fun _ => by omega⟩

theorem starts_eq_map (parent : Option Nat) (id : Nat) (F : Forest Piece) :
    F.starts id = (F.entries parent id).map fun e => (e.id, e.label.span.start) := by
  induction F generalizing parent id with
  | nil => rfl
  | cons p children rest ihc ihr =>
    rw [starts, ihc (some id), ihr parent, entries, List.map_cons, List.map_append]

/-- Nodes are closed in another order than that of the document. -/
theorem stops_perm_map (parent : Option Nat) (id : Nat) (F : Forest Piece) :
    (F.stops id).Perm ((F.entries parent id).map fun e => (e.id, e.label.span.stop)) := by
  induction F generalizing parent id with
  | nil => exact List.Perm.nil
  | cons p children rest ihc ihr =>
    -- A node is closed after its children, but stands before them.
    rw [stops, entries, List.map_cons, List.map_append]
    exact List.perm_middle.trans (((ihc (some id) (id + 1)).append (ihr parent _)).cons _)

end Forest

/-! ## Trees with spans -/

/-- The **spans of a tree** over a source text: what they cover, and how they lie. -/
structure SyntaxTree.CoveredBy (source : String) (tree : SyntaxTree) (span : Node tree → Span) :
    Prop where
  /-- Spans are in order. -/
  start_le_stop (n : Node tree) : (span n).start ≤ (span n).stop
  /-- Spans are inside the source. -/
  stop_le (n : Node tree) : (span n).stop ≤ Text.byteLength source.toList
  /-- Spans start between characters. -/
  isBoundary_start (n : Node tree) : Text.IsBoundary source.toList (span n).start
  /-- Spans end between characters. -/
  isBoundary_stop (n : Node tree) : Text.IsBoundary source.toList (span n).stop
  /-- The text of a node is what its span covers. -/
  text_eq (n : Node tree) : ∃ before after, source.toList = before ++ n.text.toList ++ after ∧
    Text.byteLength before = (span n).start ∧
      Text.byteLength (before ++ n.text.toList) = (span n).stop
  /-- A node starts at the position of the start of its span. -/
  start_eq (n : Node tree) : n.start = (LineIndex.ofSource source.toList).position (span n).start
  /-- The span of a child lies inside that of its parent. -/
  child_inside {n p : Node tree} (h : n.parent? = some p) :
    (span p).start ≤ (span n).start ∧ (span n).stop ≤ (span p).stop
  /-- Of two children of a node the earlier ends where the later starts or before. -/
  pairwise_children (p : Node tree) :
    p.children.Pairwise fun m n => (span m).stop ≤ (span n).start
  /-- Of two topmost nodes the earlier ends where the later starts or before. -/
  pairwise_topmost : (tree.allNodes.filter fun n => n.parent?.isNone).Pairwise fun m n =>
    (span m).stop ≤ (span n).start
  /-- Any two nodes lie inside each other, as ancestor and descendant, or one after the other. -/
  nested_or_after {m n : Node tree} (h : m.id < n.id) :
    (m.IsAncestor n ∧ (span m).start ≤ (span n).start ∧ (span n).stop ≤ (span m).stop) ∨
      (span m).stop ≤ (span n).start

namespace Node

open SyntaxTree

variable {lines : LineIndex} {F : Forest Piece}

/-- The span of the piece that a node stands for. -/
def span (n : Node (ofForest (Piece.label lines) F)) : Span :=
  n.entry.label.span

theorem text_eq_of_slice? {n : Node (ofForest (Piece.label lines) F)} {part : List Char}
    (h : Text.slice? n.span.start n.span.stop lines.source = some part) :
    n.text.toList = part := by
  rw [text, data_eq]
  show (String.ofList ((Text.slice? n.span.start n.span.stop lines.source).getD [])).toList = part
  rw [h, Option.getD_some, String.toList_ofList]

theorem start_eq_position (n : Node (ofForest (Piece.label lines) F)) :
    n.start = lines.position n.span.start := by
  rw [start, data_eq]
  rfl

end Node

/-- Of two nodes with one parent, or none at all, the earlier ends where the later starts or
before. -/
theorem Forest.Fits.stop_le_start {source : List Char} {lines : LineIndex} {F : Forest Piece}
    (h : F.Fits source 0) {m n : Node (.ofForest (Piece.label lines) F)} (hlt : m.id < n.id)
    (hparent : m.parent? = n.parent?) : m.span.stop ≤ n.span.start := by
  have hlast := Node.last_lt_of_parent?_eq hlt hparent
  refine (Forest.rel_of_id_lt h.pairwise m.entry_mem n.entry_mem (by simpa using hlt)).2 ?_
  rwa [Node.id_entry]

theorem Forest.Fits.exists_slice? {source : List Char} {lines : LineIndex} {F : Forest Piece}
    (h : F.Fits source 0) (n : Node (.ofForest (Piece.label lines) F)) :
    ∃ part, Text.slice? n.span.start n.span.stop source = some part :=
  (h.of_mem n.entry_mem).2.2

/-- **The spans of a tree of pieces in order.** -/
theorem Forest.Fits.coveredBy {source : String} {F : Forest Piece} (h : F.Fits source.toList 0) :
    SyntaxTree.CoveredBy source (.ofForest (Piece.label (.ofSource source.toList)) F)
      Node.span where
  start_le_stop n := by
    obtain ⟨part, hpart⟩ := h.exists_slice? n
    exact Text.le_of_slice?_eq_some hpart
  stop_le n := by
    obtain ⟨part, hpart⟩ := h.exists_slice? n
    exact (Text.isBoundary_stop_of_slice? hpart).le
  isBoundary_start n := by
    obtain ⟨part, hpart⟩ := h.exists_slice? n
    exact Text.isBoundary_start_of_slice? hpart
  isBoundary_stop n := by
    obtain ⟨part, hpart⟩ := h.exists_slice? n
    exact Text.isBoundary_stop_of_slice? hpart
  text_eq n := by
    obtain ⟨part, hpart⟩ := h.exists_slice? n
    rw [Node.text_eq_of_slice? hpart]
    exact Text.slice?_eq_some_iff.mp hpart
  start_eq n := n.start_eq_position
  child_inside {n p} hp := by
    obtain ⟨hlt, hle⟩ := Node.bounds_of_parent? hp
    refine (Forest.rel_of_id_lt h.pairwise p.entry_mem n.entry_mem (by simpa using hlt)).1 ?_
    rwa [Node.id_entry]
  pairwise_children p := by
    have hforest := SyntaxTree.isForest_ofForest (Piece.label (.ofSource source.toList)) F
    refine (hforest.pairwise_children p).imp_of_mem fun {m n} hm hn hlt => ?_
    refine h.stop_le_start hlt ?_
    rw [hforest.parent?_eq_some_iff.mpr hm, hforest.parent?_eq_some_iff.mpr hn]
  pairwise_topmost := by
    refine ((SyntaxTree.pairwise_allNodes _).filter _).imp_of_mem fun {m n} hm hn hlt => ?_
    refine h.stop_le_start hlt ?_
    rw [Option.isNone_iff_eq_none.mp (List.mem_filter.mp hm).2,
      Option.isNone_iff_eq_none.mp (List.mem_filter.mp hn).2]
  nested_or_after {m n} hlt := by
    have hrel := Forest.rel_of_id_lt h.pairwise m.entry_mem n.entry_mem (by simpa using hlt)
    rw [Node.id_entry] at hrel
    rcases Nat.lt_or_ge m.entry.last n.id with hafter | hbelow
    · exact .inr (hrel.2 hafter)
    · exact .inl ⟨Node.isAncestor_of_le_last hlt hbelow, hrel.1 hbelow⟩

/-- **Soundness of building**: whatever the calls, refused ones included, every node of a tree that
is finished has a span, which runs from the offset of its opening to that of its closing. -/
theorem SyntaxTree.exists_coveredBy_of_finish {source : String} {calls : List Builder.Call}
    {tree : SyntaxTree} (h : ((Builder.ofSource source).run calls).2.finish = .ok tree) :
    ∃ span : Node tree → Span, tree.CoveredBy source span ∧
      (Builder.ofSource source).openings calls
        = tree.allNodes.map (fun n => (n.id, (span n).start)) ∧
      ((Builder.ofSource source).closings calls).Perm
        (tree.allNodes.map fun n => (n.id, (span n).stop)) := by
  obtain ⟨F, rfl, hfits, hopenings, hclosings⟩ := Builder.exists_forest_of_finish h
  refine ⟨Node.span, hfits.coveredBy, ?_, ?_⟩
  · rw [hopenings, Forest.starts_eq_map none, ← Node.map_entry_allNodes, List.map_map]
    refine List.map_congr_left fun n _ => ?_
    rw [Function.comp_apply, Node.id_entry]
    rfl
  · rw [hclosings]
    refine (Forest.stops_perm_map none 0 F).trans (.of_eq ?_)
    rw [← Node.map_entry_allNodes, List.map_map]
    refine List.map_congr_left fun n _ => ?_
    rw [Function.comp_apply, Node.id_entry]
    rfl

/-- The spans of a link whose label is closed only at the second attempt, since the first would cut
through the text inside. -/
theorem SyntaxTree.exists_coveredBy_of_retry :
    let result := (Builder.ofSource "[a](b)").run [.openNode "link" 0, .openNode "label" 0,
      .token "labelText" ⟨1, 2⟩, .closeNode 1, .closeNode 3, .closeNode 6]
    result.1[3]? = some (.error (.misplaced "label" 0 1)) ∧ ∃ tree, result.2.finish = .ok tree ∧
      ∃ span : Node tree → Span, tree.CoveredBy "[a](b)" span := by
  have h : ((Builder.ofSource "[a](b)").run [.openNode "link" 0, .openNode "label" 0,
      .token "labelText" ⟨1, 2⟩, .closeNode 1, .closeNode 3, .closeNode 6]).2.finish = .ok _ := rfl
  exact ⟨rfl, _, h, (exists_coveredBy_of_finish h).imp fun _ hspan => hspan.1⟩

end DescriptiveLinks
