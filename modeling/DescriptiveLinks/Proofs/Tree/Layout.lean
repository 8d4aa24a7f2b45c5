import Mathlib.Data.List.Forall2
import DescriptiveLinks.Proofs.Tree.Accepted
import DescriptiveLinks.Proofs.Tree.Spans

/-! # Which forests can be built

A forest of nodes with offsets is handed to a builder call by call: a node is opened, its children
are built, and it is closed. The builder compares each offset with what has been reached so far, yet
it refuses no call exactly where the forest is laid out over the source as a document is, and then
it builds this forest.

* `Forest.calls` are the calls, and `Forest.LaidOut` says node by node what a layout is.
* `Forest.fits_iff_laidOut` relates it to the order of pieces that a builder keeps.
* `Builder.accepts_calls_iff_laidOut` is the result. -/

namespace DescriptiveLinks

/-- Whether a span is one of a source: in order, inside the source, and between characters. -/
def Span.IsPartOf (s : Span) (source : List Char) : Prop :=
  s.start ≤ s.stop ∧ s.stop ≤ Text.byteLength source ∧ Text.IsBoundary source s.start ∧
    Text.IsBoundary source s.stop

instance (s : Span) (source : List Char) : Decidable (s.IsPartOf source) :=
  inferInstanceAs (Decidable (_ ∧ _))

namespace Forest

/-! ## Layouts -/

/-- The calls that build a forest: in document order, each node around its children. -/
def calls : Forest Piece → List Builder.Call
  | nil => []
  | cons p children rest =>
    .openNode p.kind p.span.start :: (children.calls ++ .closeNode p.span.stop :: rest.calls)

/-- The labels of the topmost nodes. -/
def roots {α : Type} : Forest α → List α
  | nil => []
  | cons label _ rest => label :: rest.roots

/-- The **layout** of a forest over a source: every node has a span of the source, every child lies
inside its parent, and of two nodes that follow each other as siblings, or at the top, the earlier
ends where the later starts or before. -/
def LaidOut (source : List Char) : Forest Piece → Prop
  | nil => True
  | cons p children rest =>
    p.span.IsPartOf source ∧
      (∀ c ∈ children.roots, p.span.start ≤ c.span.start ∧ c.span.stop ≤ p.span.stop) ∧
      (∀ q ∈ rest.roots.head?, p.span.stop ≤ q.span.start) ∧
      children.LaidOut source ∧ rest.LaidOut source

instance decidableLaidOut (source : List Char) :
    (F : Forest Piece) → Decidable (F.LaidOut source)
  | nil => .isTrue trivial
  | cons p children rest =>
    have := decidableLaidOut source children
    have := decidableLaidOut source rest
    inferInstanceAs (Decidable (p.span.IsPartOf source ∧
      (∀ c ∈ children.roots, p.span.start ≤ c.span.start ∧ c.span.stop ≤ p.span.stop) ∧
      (∀ q ∈ rest.roots.head?, p.span.stop ≤ q.span.start) ∧ _ ∧ _))

variable {source : List Char} {low : Nat} {F : Forest Piece}

theorem exists_slice?_iff_isPartOf {s : Span} :
    (∃ part, Text.slice? s.start s.stop source = some part) ↔ s.IsPartOf source := by
  rw [Text.exists_slice?_iff]
  constructor
  · rintro ⟨hle, hstart, hstop⟩
    exact ⟨hle, hstop.le, hstart, hstop⟩
  · rintro ⟨hle, -, hstart, hstop⟩
    exact ⟨hle, hstart, hstop⟩

/-- The topmost pieces lie between the bounds of the forest. -/
theorem Fits.of_mem_roots (h : F.Fits source low) {p : Piece} (hp : p ∈ F.roots) :
    low ≤ p.span.start ∧ p.span.stop ≤ F.lastStop low := by
  induction F generalizing low with
  | nil => cases hp
  | cons q children rest _ ih =>
    obtain ⟨hlow, ⟨part, hpart⟩, -, -, hrest⟩ := h
    have hle := Text.le_of_slice?_eq_some hpart
    rcases List.mem_cons.mp hp with rfl | hp
    · exact ⟨hlow, hrest.le_lastStop⟩
    · obtain ⟨hstart, hstop⟩ := ih hrest hp
      exact ⟨by omega, hstop⟩

/-- What the topmost pieces have reached is the end of one of them, or the lower bound. -/
theorem lastStop_le {stop : Nat} (hlow : low ≤ stop) (h : ∀ p ∈ F.roots, p.span.stop ≤ stop) :
    F.lastStop low ≤ stop := by
  induction F generalizing low with
  | nil => exact hlow
  | cons q children rest _ ih =>
    obtain ⟨hq, hrest⟩ := List.forall_mem_cons.mp h
    exact ih hq hrest

/-- **The order of pieces is a layout** that starts at the lower bound or later. -/
theorem fits_iff_laidOut :
    F.Fits source low ↔ F.LaidOut source ∧ ∀ p ∈ F.roots.head?, low ≤ p.span.start := by
  induction F generalizing low with
  | nil => exact iff_of_true trivial ⟨trivial, nofun⟩
  | cons p children rest ihc ihr =>
    rw [Fits, LaidOut, exists_slice?_iff_isPartOf, ihr]
    constructor
    · rintro ⟨hlow, hpart, hchildren, hstop, hrest, hnext⟩
      refine ⟨⟨hpart, fun c hc => ?_, hnext, (ihc.mp hchildren).1, hrest⟩, fun q hq => ?_⟩
      · obtain ⟨hstart, hstop'⟩ := hchildren.of_mem_roots hc
        exact ⟨hstart, by omega⟩
      · cases hq
        exact hlow
    · rintro ⟨⟨hpart, hinside, hnext, hchildren, hrest⟩, hlow⟩
      have hfirst : ∀ c ∈ children.roots.head?, p.span.start ≤ c.span.start := by
        intro c hc
        exact (hinside c (List.mem_of_mem_head? hc)).1
      exact ⟨hlow p rfl, hpart, ihc.mpr ⟨hchildren, hfirst⟩,
        lastStop_le hpart.1 fun c hc => (hinside c hc).2, hrest, hnext⟩

end Forest

/-- Adds closed pieces at the innermost level of a draft. -/
def Draft.extend (F : Forest Piece) : Draft → Draft
  | topmost done => topmost (done.append F)
  | inside outer kind start done => inside outer kind start (done.append F)

@[simp] theorem Draft.extend_nil (d : Draft) : d.extend .nil = d := by
  cases d <;> rw [extend, Forest.append_nil]

/-- Adding a piece and further ones adds the forest that begins with it. -/
theorem Draft.extend_add (p : Piece) (children rest : Forest Piece) (d : Draft) :
    (d.add p children).extend rest = d.extend (.cons p children rest) := by
  cases d <;> rw [add, extend, extend, Forest.append_assoc] <;> rfl

namespace Builder

namespace Represents

variable {lines : LineIndex} {b : Builder} {d : Draft} {F : Forest Piece}

/-- **Pieces in order are built**: the calls of a forest that goes on from what has been reached are
accepted, wherever the builder stands, and add the forest there, if there are ids for it. -/
theorem run_calls (h : Represents lines b d) (hF : F.Fits lines.source d.floor)
    (hsize : d.nextId + F.size ≤ maxNodes) :
    b.Accepts F.calls ∧ Represents lines (b.run F.calls).2 (d.extend F) := by
  induction F generalizing b d with
  | nil => exact ⟨accepts_nil b, by simpa [Forest.calls] using h⟩
  | cons p children rest ihc ihr =>
    obtain ⟨hlow, ⟨part, hslice⟩, hchildren, hstop, hrest⟩ := hF
    rw [Forest.size_cons] at hsize
    -- The opening goes one level down, where the children are built by induction.
    obtain ⟨b₁, hopen⟩ := (h.exists_openNode_iff p.kind).mpr
      ⟨hlow, (Text.isBoundary_start_of_slice? hslice).le, by omega⟩
    have h₁ := (h.openNode hopen).2
    have hnextId : (d.inside p.kind p.span.start .nil).nextId = d.nextId + 1 := rfl
    obtain ⟨haccepts, h₂⟩ := ihc h₁ hchildren (by omega)
    -- The closing goes up again, and the rest goes on from where the node ends.
    obtain ⟨b₃, hclose⟩ := h₂.exists_closeNode_iff.mpr ⟨hstop, part, hslice⟩
    have h₃ := (h₂.closeNode_inside hclose).2
    obtain ⟨haccepts', h₄⟩ := ihr h₃ (by rwa [Draft.floor_add])
      (by rw [Draft.nextId_add, Forest.nil_append]; omega)
    rw [Forest.calls, accepts_cons, accepts_append, accepts_cons, run_cons, run_append, run_cons,
      hopen, hclose, ← Draft.extend_add]
    exact ⟨⟨⟨_, rfl⟩, haccepts, ⟨_, rfl⟩, haccepts'⟩, h₄⟩

/-- **Only pieces in order are built**: where no call of a forest is refused, it goes on from what
has been reached, and there are ids for it. -/
theorem fits_of_accepts (h : Represents lines b d) (hF : b.Accepts F.calls) :
    F.Fits lines.source d.floor ∧ d.nextId + F.size ≤ maxNodes := by
  induction F generalizing b d with
  | nil => exact ⟨trivial, h.nextId_le⟩
  | cons p children rest ihc ihr =>
    rw [Forest.calls, accepts_cons, accepts_append, accepts_cons] at hF
    obtain ⟨⟨id, hid⟩, haccepts, ⟨id', hid'⟩, haccepts'⟩ := hF
    have hopen := apply_eq_of_fst hid
    obtain ⟨rfl, h₁⟩ := h.openNode hopen
    obtain ⟨hchildren, hsize⟩ := ihc h₁ haccepts
    -- Since the children are in order, the builder stands where they have been added.
    have h₂ := (h₁.run_calls hchildren hsize).2
    have hclose := apply_eq_of_fst hid'
    obtain ⟨rfl, h₃⟩ := h₂.closeNode_inside hclose
    obtain ⟨hstop, hslice⟩ := h₂.exists_closeNode_iff.mp ⟨_, hclose⟩
    obtain ⟨hrest, hsize'⟩ := ihr h₃ haccepts'
    rw [Draft.floor_add] at hrest
    rw [Draft.nextId_add, Forest.nil_append] at hsize'
    rw [Forest.size_cons]
    exact ⟨⟨((h.exists_openNode_iff p.kind).mp ⟨_, hopen⟩).1, hslice, hchildren, hstop, hrest⟩,
      by omega⟩

end Represents

end Builder

/-! ## Built forests -/

/-- The nodes of the tree of a forest are those of the forest, in document order. -/
theorem SyntaxTree.forall₂_entries {α : Type} (view : α → NodeLabel) (F : Forest α) :
    List.Forall₂ (fun n e => n.id = e.id ∧ n.kind = (view e.label).kind ∧
      n.parent?.map Node.id = e.parent ∧ n.children.map Node.id = e.childIds)
      (ofForest view F).allNodes (F.entries none 0) := by
  rw [← Node.map_entry_allNodes, List.forall₂_map_right_iff, List.forall₂_same]
  intro n _
  exact ⟨n.id_entry.symm, n.kind_eq, n.map_id_parent?, n.map_id_children⟩

/-- **What can be built**: the calls of a forest and the request for the tree meet no error exactly
where the forest is laid out over the source and has no more nodes than there are ids. The nodes of
the tree are then those of the forest in document order, with the same types, parents and
children. -/
theorem Builder.accepts_calls_iff_laidOut (source : String) (F : Forest Piece) :
    (((ofSource source).Accepts F.calls ∧
        ∃ tree, ((ofSource source).run F.calls).2.finish = .ok tree) ↔
      F.LaidOut source.toList ∧ F.size ≤ maxNodes) ∧
    (F.LaidOut source.toList → F.size ≤ maxNodes →
      ∃ tree, ((ofSource source).run F.calls).2.finish = .ok tree ∧
        List.Forall₂ (fun n e => n.id = e.id ∧ n.kind = e.label.kind ∧
          n.parent?.map Node.id = e.parent ∧ n.children.map Node.id = e.childIds)
          tree.allNodes (F.entries none 0)) := by
  have h := represents_ofSource source
  have hfits : F.Fits source.toList 0 ↔ F.LaidOut source.toList :=
    Forest.fits_iff_laidOut.trans (and_iff_left fun _ _ => Nat.zero_le _)
  have hnextId : (Draft.topmost .nil).nextId + F.size = F.size := Nat.zero_add _
  have hbuilt (hF : F.LaidOut source.toList) (hsize : F.size ≤ maxNodes) :
      (ofSource source).Accepts F.calls ∧ ((ofSource source).run F.calls).2.finish
        = .ok (.ofForest (Piece.label (.ofSource source.toList)) F) := by
    obtain ⟨haccepts, hlast⟩ := h.run_calls (hfits.mpr hF) (hnextId.trans_le hsize)
    exact ⟨haccepts, hlast.finish_eq⟩
  refine ⟨⟨?_, ?_⟩, fun hF hsize => ⟨_, (hbuilt hF hsize).2, SyntaxTree.forall₂_entries _ F⟩⟩
  · rintro ⟨haccepts, -⟩
    obtain ⟨hF, hsize⟩ := h.fits_of_accepts haccepts
    exact ⟨hfits.mp hF, hnextId.symm.trans_le hsize⟩
  · rintro ⟨hF, hsize⟩
    exact ⟨(hbuilt hF hsize).1, _, (hbuilt hF hsize).2⟩

/-- A link with an empty node at its end, where every offset is one that another node has reached
before. -/
theorem Builder.exists_laidOut_link :
    ∃ F : Forest Piece, F.LaidOut "[é](x)".toList ∧ F.size = 7 ∧
      ∃ tree, ((ofSource "[é](x)").run F.calls).2.finish = .ok tree ∧
        List.Forall₂ (fun n e => n.kind = e.label.kind ∧ n.parent?.map Node.id = e.parent)
          tree.allNodes (F.entries none 0) := by
  have hF : Forest.LaidOut "[é](x)".toList
      (.cons ⟨"link", ⟨0, 7⟩⟩
        (.cons ⟨"label", ⟨0, 4⟩⟩
          (.cons ⟨"labelMarker", ⟨0, 1⟩⟩ .nil
            (.cons ⟨"labelText", ⟨1, 3⟩⟩ .nil (.cons ⟨"labelMarker", ⟨3, 4⟩⟩ .nil .nil)))
          (.cons ⟨"resource", ⟨4, 7⟩⟩ .nil (.cons ⟨"end", ⟨7, 7⟩⟩ .nil .nil))) .nil) := by decide
  obtain ⟨tree, htree, hnodes⟩ := (accepts_calls_iff_laidOut "[é](x)" _).2 hF (by decide)
  exact ⟨_, hF, rfl, tree, htree, hnodes.imp fun _ _ h => ⟨h.2.1, h.2.2.1⟩⟩

end DescriptiveLinks
