import DescriptiveLinks.Proofs.Tree.Accepted
import DescriptiveLinks.Proofs.Tree.Spans

/-! # What can be completed

A tree is complete once every node is closed. An open node can be closed where it starts between
characters, at the latest at the end of the source. An opening does not ask for that: it is accepted
at every offset that is not too small and not past the end, and from a start inside a character on
no calls lead to a tree any more.

* `Builder.closeAll` closes every open node at the end of the source.
* `Builder.completable_iff` says which builders can be completed, and that `closeAll` then does it.
* `Builder.not_always_closable` is a node that no offset closes. -/

namespace DescriptiveLinks

/-- Pieces in order do not go beyond the end of the source. -/
theorem Forest.Fits.lastStop_le_byteLength {source : List Char} {low : Nat} {F : Forest Piece}
    (h : F.Fits source low) (hlow : low ≤ Text.byteLength source) :
    F.lastStop low ≤ Text.byteLength source := by
  induction F generalizing low with
  | nil => exact hlow
  | cons p children rest _ ih =>
    obtain ⟨-, ⟨part, hpart⟩, -, -, hrest⟩ := h
    exact ih hrest (Text.isBoundary_stop_of_slice? hpart).le

/-! ## Open nodes of a draft -/

namespace Draft

variable {d : Draft} {p : Piece} {children : Forest Piece}

/-- Adding a piece leaves the starts of the open nodes as they are. -/
theorem map_start_openNodes_add :
    (d.add p children).openNodes.map OpenNode.start = d.openNodes.map OpenNode.start := by
  cases d <;> rfl

theorem mem_starts_of_mem_openNodes {n : OpenNode} (hn : n ∈ d.openNodes) :
    (n.id, n.start) ∈ d.starts := by
  induction d with
  | topmost done => cases hn
  | inside outer kind start done ih =>
    rw [starts, List.mem_append]
    rcases List.mem_cons.mp hn with rfl | hn
    · exact .inr List.mem_cons_self
    · exact .inl (ih hn)

end Draft

namespace Builder

/-- The calls that close every open node at the end of the source. -/
def closeAll (b : Builder) : List Call :=
  List.replicate b.openNodes.length (.closeNode (Text.byteLength b.lines.source))

namespace Represents

variable {lines : LineIndex} {b : Builder} {d outer : Draft} {kind : String} {start : Nat}
  {done : Forest Piece}

/-! ## Closing -/

/-- A node that starts between characters can be closed at the end of the source. -/
theorem exists_closeNode_byteLength (h : Represents lines b (.inside outer kind start done))
    (hstart : Text.IsBoundary lines.source start) :
    ∃ next, b.apply (.closeNode (Text.byteLength lines.source)) = (.ok outer.nextId, next) := by
  have hdone : done.Fits lines.source start := h.fits.2.2
  exact h.exists_closeNode_iff.mpr ⟨hdone.lastStop_le_byteLength hstart.le,
    Text.exists_slice?_iff.mpr ⟨hstart.le, hstart, Text.isBoundary_byteLength lines.source⟩⟩

/-- **The innermost node** can be closed exactly where it starts between characters. -/
theorem exists_closeNode_iff_isBoundary (h : Represents lines b d) {n : OpenNode}
    {rest : List OpenNode} (hopen : b.openNodes = n :: rest) :
    (∃ stop id, (b.apply (.closeNode stop)).1 = .ok id) ↔
      Text.IsBoundary lines.source n.start := by
  rw [h.openNodes_eq] at hopen
  cases d with
  | topmost done => cases hopen
  | inside outer kind start done =>
    cases hopen
    constructor
    · rintro ⟨stop, id, hid⟩
      have hclose := apply_eq_of_fst hid
      obtain rfl := (h.closeNode_inside hclose).1
      obtain ⟨-, part, hpart⟩ := h.exists_closeNode_iff.mp ⟨_, hclose⟩
      exact Text.isBoundary_start_of_slice? hpart
    · intro hstart
      obtain ⟨next, hclose⟩ := h.exists_closeNode_byteLength hstart
      exact ⟨_, _, congrArg Prod.fst hclose⟩

/-- **Closing every node** at the end of the source works where all of them start between
characters. -/
theorem accepts_closeAll (h : Represents lines b d)
    (hstarts : ∀ start ∈ d.openNodes.map OpenNode.start, Text.IsBoundary lines.source start) :
    b.Accepts b.closeAll ∧ ∃ F, Represents lines (b.run b.closeAll).2 (.topmost F) := by
  rw [closeAll, h.openNodes_eq, h.lines_eq, ← List.length_map OpenNode.start]
  -- A closing changes the level around the node, so the induction is on the number of open nodes.
  induction hcount : (d.openNodes.map OpenNode.start).length generalizing b d with
  | zero =>
    cases d with
    | topmost done => exact ⟨accepts_nil b, done, h⟩
    | inside outer kind start done => cases hcount
  | succ count ih =>
    cases d with
    | topmost done => cases hcount
    | inside outer kind start done =>
      obtain ⟨hstart, houter⟩ := List.forall_mem_cons.mp hstarts
      obtain ⟨next, hclose⟩ := h.exists_closeNode_byteLength hstart
      obtain ⟨haccepts, F, hF⟩ := ih (h.closeNode_inside hclose).2
        (by rwa [Draft.map_start_openNodes_add])
        (by rw [Draft.map_start_openNodes_add]; exact Nat.succ.inj hcount)
      rw [List.replicate_succ, accepts_cons, run_cons, hclose]
      exact ⟨⟨⟨_, rfl⟩, haccepts⟩, F, hF⟩

/-- Every node that is open at some time starts between characters if a tree comes out in the
end. -/
theorem isBoundary_of_finish (h : Represents lines b d) {calls : List Call} {tree : SyntaxTree}
    (hfinish : (b.run calls).2.finish = .ok tree) {n : OpenNode} (hn : n ∈ d.openNodes) :
    Text.IsBoundary lines.source n.start := by
  -- The node is in the finished forest with the start it has now, and spans there are parts of the
  -- source.
  obtain ⟨last, hlast, hstarts, -⟩ := h.run calls
  obtain ⟨F, rfl, -⟩ := hlast.eq_topmost_of_finish hfinish
  have hmem : (n.id, n.start) ∈ F.starts 0 := by
    rw [show F.starts 0 = d.starts ++ _ from hstarts]
    exact List.mem_append_left _ (Draft.mem_starts_of_mem_openNodes hn)
  rw [Forest.starts_eq_map none, List.mem_map] at hmem
  obtain ⟨e, he, heq⟩ := hmem
  obtain ⟨-, -, part, hpart⟩ := Forest.Fits.of_mem hlast.fits he
  rw [← (Prod.mk.inj heq).2]
  exact Text.isBoundary_start_of_slice? hpart

end Represents

/-! ## Completing -/

/-- **What can be completed**: wherever calls have led, refused ones included, the innermost open
node can be closed exactly where it starts between characters, and further calls lead to a tree
exactly where all open nodes do. Closing them at the end of the source is then enough. -/
theorem completable_iff {source : String} {calls : List Call} {b : Builder}
    (hb : ((ofSource source).run calls).2 = b) :
    (∀ n rest, b.openNodes = n :: rest → ((∃ stop id, (b.apply (.closeNode stop)).1 = .ok id) ↔
      Text.IsBoundary source.toList n.start)) ∧
    ((∃ more tree, (b.run more).2.finish = .ok tree) ↔
      ∀ n ∈ b.openNodes, Text.IsBoundary source.toList n.start) ∧
    ((∀ n ∈ b.openNodes, Text.IsBoundary source.toList n.start) →
      b.Accepts b.closeAll ∧ ∃ tree, (b.run b.closeAll).2.finish = .ok tree) := by
  obtain ⟨d, hd, -⟩ := (represents_ofSource source).run calls
  rw [hb] at hd
  have hcloseAll (hstarts : ∀ n ∈ b.openNodes, Text.IsBoundary source.toList n.start) :
      b.Accepts b.closeAll ∧ ∃ tree, (b.run b.closeAll).2.finish = .ok tree := by
    rw [hd.openNodes_eq, ← List.forall_mem_map] at hstarts
    obtain ⟨haccepts, F, hF⟩ := hd.accepts_closeAll hstarts
    exact ⟨haccepts, _, hF.finish_eq⟩
  refine ⟨fun n rest hopen => hd.exists_closeNode_iff_isBoundary hopen, ⟨?_, ?_⟩, hcloseAll⟩
  · rintro ⟨more, tree, hfinish⟩ n hn
    rw [hd.openNodes_eq] at hn
    exact hd.isBoundary_of_finish hfinish hn
  · intro hstarts
    exact ⟨_, (hcloseAll hstarts).2⟩

/-- A label that is left open inside a link after a closing that is refused. -/
theorem exists_finish_of_retry :
    ∃ b, ((ofSource "[é]").run [.openNode "link" 0, .openNode "label" 1, .closeNode 2]).2 = b ∧
      ∃ tree, (b.run [.closeNode 4, .closeNode 4]).2.finish = .ok tree :=
  ⟨_, rfl, ((completable_iff rfl).2.2 (by decide)).2⟩

/-- **A node that no offset closes**: it has been opened inside a character. -/
theorem not_always_closable :
    ¬ ∀ (source : String) (calls : List Call), ((ofSource source).run calls).2.openNodes ≠ [] →
      ∃ stop id, (((ofSource source).run calls).2.apply (.closeNode stop)).1 = .ok id := by
  intro hclosable
  obtain ⟨d, hd, -⟩ := (represents_ofSource "é").run [.openNode "link" 1]
  have hstart : Text.IsBoundary "é".toList 1 :=
    (hd.exists_closeNode_iff_isBoundary rfl).mp (hclosable "é" [.openNode "link" 1] nofun)
  exact absurd hstart (by decide)

end Builder

end DescriptiveLinks
