import DescriptiveLinks.Proofs.Tree.Calls
import DescriptiveLinks.Proofs.Tree.Table

/-! # What a builder has made

A builder keeps a flat table, a stack of open nodes and a few offsets. They stand for a *draft*: the
closed nodes at every level of the stack, each with the span that its calls gave it. A builder
*represents* a draft, an opening goes one level down in it, and a closing goes one level up.

* `Forest.Fits` is the invariant: spans are in order, inside each other, and between characters.
* `Builder.Represents.run` carries it through any calls, refused ones included.
* `Builder.exists_forest_of_finish` says what a finished tree is. -/

namespace DescriptiveLinks

/-- A node of a source text, as it is closed. -/
structure Piece where
  /-- The type of the node. -/
  kind : String
  /-- The span between the offsets of its opening and its closing. -/
  span : Span

/-- What the tree keeps for a piece of a source text. -/
def Piece.label (lines : LineIndex) (p : Piece) : NodeLabel where
  kind := p.kind
  text := String.ofList ((Text.slice? p.span.start p.span.stop lines.source).getD [])
  start := lines.position p.span.start

namespace Forest

/-- The offset that the topmost pieces have reached: where the last of them ends, or `low`. -/
def lastStop (low : Nat) : Forest Piece → Nat
  | nil => low
  | cons p _ rest => rest.lastStop p.span.stop

/-- The **order of pieces**: from `low` on, each piece starts where the one before it ends or later,
holds what is below it, and is cut out of the source between characters. -/
def Fits (source : List Char) (low : Nat) : Forest Piece → Prop
  | nil => True
  | cons p children rest =>
    low ≤ p.span.start ∧ (∃ part, Text.slice? p.span.start p.span.stop source = some part) ∧
      children.Fits source p.span.start ∧ children.lastStop p.span.start ≤ p.span.stop ∧
      rest.Fits source p.span.stop

/-- The ids and starts of the nodes of a forest that is numbered from `id`, in document order. -/
def starts (id : Nat) : Forest Piece → List (Nat × Nat)
  | nil => []
  | cons p children rest =>
    (id, p.span.start) :: (children.starts (id + 1) ++ rest.starts (id + children.size + 1))

/-- The ids and stops of the nodes of a forest that is numbered from `id`, in the order in which the
nodes are closed. -/
def stops (id : Nat) : Forest Piece → List (Nat × Nat)
  | nil => []
  | cons p children rest =>
    children.stops (id + 1) ++ (id, p.span.stop) :: rest.stops (id + children.size + 1)

theorem Fits.le_lastStop {source : List Char} {low : Nat} {F : Forest Piece}
    (h : F.Fits source low) : low ≤ F.lastStop low := by
  induction F generalizing low with
  | nil => exact Nat.le_refl low
  | cons p children rest ihc ihr =>
    obtain ⟨hlow, -, hchildren, hstop, hrest⟩ := h
    calc low ≤ p.span.start := hlow
      _ ≤ children.lastStop p.span.start := ihc hchildren
      _ ≤ p.span.stop := hstop
      _ ≤ rest.lastStop p.span.stop := ihr hrest

theorem lastStop_append (low : Nat) (F G : Forest Piece) :
    (F.append G).lastStop low = G.lastStop (F.lastStop low) := by
  induction F generalizing low with
  | nil => rfl
  | cons p children rest _ ih => exact ih p.span.stop

theorem fits_append {source : List Char} {low : Nat} {F G : Forest Piece} :
    (F.append G).Fits source low ↔ F.Fits source low ∧ G.Fits source (F.lastStop low) := by
  induction F generalizing low with
  | nil => simp [Fits, lastStop]
  | cons p children rest _ ih => simp only [cons_append, Fits, lastStop, ih, and_assoc]

theorem starts_append (id : Nat) (F G : Forest Piece) :
    (F.append G).starts id = F.starts id ++ G.starts (id + F.size) := by
  induction F generalizing id with
  | nil => rfl
  | cons p children rest _ ih =>
    rw [cons_append, starts, starts, ih, size_cons, List.cons_append, List.append_assoc]
    congr 4
    omega

theorem stops_append (id : Nat) (F G : Forest Piece) :
    (F.append G).stops id = F.stops id ++ G.stops (id + F.size) := by
  induction F generalizing id with
  | nil => rfl
  | cons p children rest _ ih =>
    rw [cons_append, stops, stops, ih, size_cons, List.append_assoc, List.cons_append]
    congr 4
    omega

end Forest

/-! ## Drafts -/

/-- A **draft**: closed pieces at the top of a document, or inside an open node that itself stands
in a draft. -/
inductive Draft where
  /-- No node is open. -/
  | topmost (done : Forest Piece)
  /-- The innermost open node has a type and a start. -/
  | inside (outer : Draft) (kind : String) (start : Nat) (done : Forest Piece)

namespace Draft

/-- The closed pieces at the innermost level. -/
def done : Draft → Forest Piece
  | topmost done => done
  | inside _ _ _ done => done

/-- The id of the first of the pieces at the innermost level. -/
def firstId : Draft → Nat
  | topmost _ => 0
  | inside outer _ _ _ => outer.firstId + outer.done.size + 1

/-- The number of nodes, which is the id of the next one. -/
def nextId (d : Draft) : Nat :=
  d.firstId + d.done.size

/-- The offset that the pieces at the innermost level have reached. -/
def floor : Draft → Nat
  | topmost done => done.lastStop 0
  | inside _ _ start done => done.lastStop start

/-- The offset that the topmost pieces have reached. -/
def reached : Draft → Nat
  | topmost done => done.lastStop 0
  | inside outer _ _ _ => outer.reached

/-- The open nodes, the innermost first. -/
def openNodes : Draft → List OpenNode
  | topmost _ => []
  | inside outer kind start done =>
    ⟨outer.nextId, start, (inside outer kind start done).floor⟩ :: outer.openNodes

/-- The table of the nodes, where the innermost open node has also the children `more`, which are
not in the table. -/
def nodes (lines : LineIndex) (more : List Nat) : Draft → List NodeData
  | topmost done => done.nodes (Piece.label lines) 0
  | inside outer kind start done =>
    outer.nodes lines [outer.nextId] ++
      ⟨kind, "", lines.position start, done.rootIds (outer.nextId + 1) ++ more⟩ ::
        done.nodes (Piece.label lines) (outer.nextId + 1)

/-- The ids and starts of all nodes, in document order. -/
def starts : Draft → List (Nat × Nat)
  | topmost done => done.starts 0
  | inside outer _ start done =>
    outer.starts ++ (outer.nextId, start) :: done.starts (outer.nextId + 1)

/-- The ids and stops of the closed nodes, in the order in which they have been closed. -/
def stops : Draft → List (Nat × Nat)
  | topmost done => done.stops 0
  | inside outer _ _ done => outer.stops ++ done.stops (outer.nextId + 1)

/-- The order of pieces at every level. -/
def Fits (source : List Char) : Draft → Prop
  | topmost done => done.Fits source 0
  | inside outer _ start done => outer.Fits source ∧ outer.floor ≤ start ∧ done.Fits source start

/-- Adds a closed piece at the innermost level. -/
def add (p : Piece) (children : Forest Piece) : Draft → Draft
  | topmost done => topmost (done.append (.cons p children .nil))
  | inside outer kind start done => inside outer kind start (done.append (.cons p children .nil))

theorem length_nodes (lines : LineIndex) (more : List Nat) (d : Draft) :
    (d.nodes lines more).length = d.nextId := by
  induction d generalizing more with
  | topmost done =>
    rw [nodes, Forest.length_nodes, nextId, firstId, Draft.done, Nat.zero_add]
  | inside outer kind start done ih =>
    rw [nodes, List.length_append, List.length_cons, ih, Forest.length_nodes, nextId, nextId,
      firstId, Draft.done]
    omega

/-! ### Adding a piece -/

variable (p : Piece) (children : Forest Piece) (d : Draft)

theorem floor_add : (d.add p children).floor = p.span.stop := by
  cases d <;> rw [add, floor, Forest.lastStop_append] <;> rfl

theorem nextId_add : (d.add p children).nextId = d.nextId + children.size + 1 := by
  cases d with
  | topmost done => simp [add, nextId, firstId, Draft.done, Nat.add_assoc]
  | inside outer kind start done => simp [add, nextId, firstId, Draft.done, Nat.add_assoc]

theorem nodes_add (lines : LineIndex) (more : List Nat) :
    (d.add p children).nodes lines more
      = d.nodes lines (d.nextId :: more) ++
        (p.label lines).node (children.rootIds (d.nextId + 1)) ::
          children.nodes (Piece.label lines) (d.nextId + 1) := by
  cases d with
  | topmost done =>
    rw [add, nodes, nodes, Forest.nodes_append]
    simp [nextId, firstId, Draft.done]
  | inside outer kind start done =>
    rw [add, nodes, nodes, Forest.nodes_append, Forest.rootIds_append]
    simp [nextId, firstId, Draft.done]

theorem starts_add :
    (d.add p children).starts
      = d.starts ++ (d.nextId, p.span.start) :: children.starts (d.nextId + 1) := by
  cases d with
  | topmost done =>
    rw [add, starts, starts, Forest.starts_append]
    simp [Forest.starts, nextId, firstId, Draft.done]
  | inside outer kind start done =>
    rw [add, starts, starts, Forest.starts_append]
    simp [Forest.starts, nextId, firstId, Draft.done]

theorem stops_add :
    (d.add p children).stops
      = d.stops ++ children.stops (d.nextId + 1) ++ [(d.nextId, p.span.stop)] := by
  cases d with
  | topmost done =>
    rw [add, stops, stops, Forest.stops_append]
    simp [Forest.stops, nextId, firstId, Draft.done]
  | inside outer kind start done =>
    rw [add, stops, stops, Forest.stops_append]
    simp [Forest.stops, nextId, firstId, Draft.done]

/-- A piece may be added where the pieces of its level have not gone beyond its start. -/
theorem fits_add {source : List Char} (hd : d.Fits source) (hstart : d.floor ≤ p.span.start)
    (hslice : ∃ part, Text.slice? p.span.start p.span.stop source = some part)
    (hchildren : children.Fits source p.span.start)
    (hstop : children.lastStop p.span.start ≤ p.span.stop) : (d.add p children).Fits source := by
  cases d with
  | topmost done =>
    exact Forest.fits_append.mpr ⟨hd, hstart, hslice, hchildren, hstop, trivial⟩
  | inside outer kind start done =>
    obtain ⟨houter, hlow, hdone⟩ := hd
    exact ⟨houter, hlow,
      Forest.fits_append.mpr ⟨hdone, hstart, hslice, hchildren, hstop, trivial⟩⟩

end Draft

/-! ## Builders -/

namespace Builder

/-- A builder **represents** a draft over a source text. -/
structure Represents (lines : LineIndex) (b : Builder) (d : Draft) : Prop where
  /-- The source is that of the draft. -/
  lines_eq : b.lines = lines
  /-- The table is that of the draft. -/
  nodes_eq : b.nodes = (d.nodes lines []).toArray
  /-- The open nodes are those of the draft. -/
  openNodes_eq : b.openNodes = d.openNodes
  /-- The topmost nodes have reached what they have in the draft. -/
  reached_eq : b.reached = d.reached
  /-- The draft is in order. -/
  fits : d.Fits lines.source
  /-- Every node has an id. -/
  nextId_le : d.nextId ≤ maxNodes

theorem represents_ofSource (source : String) :
    Represents (.ofSource source.toList) (ofSource source) (.topmost .nil) where
  lines_eq := rfl
  nodes_eq := rfl
  openNodes_eq := rfl
  reached_eq := rfl
  fits := trivial
  nextId_le := Nat.zero_le _

namespace Represents

variable {lines : LineIndex} {b next : Builder} {d : Draft} {kind : String} {start stop id : Nat}

theorem size_nodes (h : Represents lines b d) : b.nodes.size = d.nextId := by
  rw [h.nodes_eq, List.size_toArray, Draft.length_nodes]

/-- An open node starts where its children have got to or before, so what they have reached is the
bound. -/
theorem floor_eq (h : Represents lines b d) : b.floor = d.floor := by
  rw [floor, h.openNodes_eq]
  cases d with
  | topmost done => exact h.reached_eq
  | inside outer kind start done =>
    obtain ⟨-, -, hdone⟩ := h.fits
    exact Nat.max_eq_left hdone.le_lastStop

/-- A new node is put at the end of the table, and noted with the innermost open one. -/
theorem nodes_adopt_push (h : Represents lines b d) (node : NodeData) :
    ((b.push node).adopt d.nextId).nodes = (d.nodes lines [d.nextId] ++ [node]).toArray := by
  have hpush : (b.push node).openNodes = d.openNodes := h.openNodes_eq
  have htable : (b.push node).nodes = (d.nodes lines [] ++ [node]).toArray := by
    rw [push, h.nodes_eq, List.push_toArray]
  rw [adopt, hpush]
  cases d with
  | topmost done => exact htable
  | inside outer kind start done =>
    -- The open node stands right behind the table of the draft around it.
    show addChild (b.push node).nodes outer.nextId _ = _
    rw [htable, Draft.nodes, List.append_assoc, List.cons_append,
      addChild_toArray_append (outer.length_nodes lines _)]
    simp [Draft.nodes]

/-- **An opening** goes one level down. -/
theorem openNode (h : Represents lines b d)
    (hopen : b.apply (.openNode kind start) = (.ok id, next)) :
    id = d.nextId ∧ Represents lines next (d.inside kind start .nil) := by
  obtain ⟨⟨hfloor, -, hroom⟩, rfl, rfl⟩ := apply_openNode_eq_ok_iff.mp hopen
  rw [h.floor_eq] at hfloor
  have hid := h.size_nodes
  rw [hid] at hroom
  refine ⟨hid, lines_opened.trans h.lines_eq, ?_, ?_, reached_opened.trans h.reached_eq, ?_, ?_⟩
  · rw [opened, hid]
    exact (h.nodes_adopt_push _).trans (by rw [h.lines_eq]; rfl)
  · rw [openNodes_opened, hid, h.openNodes_eq]
    rfl
  · exact ⟨h.fits, hfloor, trivial⟩
  · exact hroom

/-- **A closing** goes one level up and adds a piece there. -/
theorem closeNode (h : Represents lines b d)
    (hclose : b.apply (.closeNode stop) = (.ok id, next)) :
    ∃ outer kind start done, d = .inside outer kind start done ∧ id = outer.nextId ∧
      Represents lines next (outer.add ⟨kind, ⟨start, stop⟩⟩ done) := by
  obtain ⟨n, rest, text, hopen, ⟨hstop, hslice⟩, rfl, rfl⟩ := apply_closeNode_eq_ok_iff.mp hclose
  rw [h.openNodes_eq] at hopen
  cases d with
  | topmost done => cases hopen
  | inside outer kind start done =>
    obtain ⟨houter, hlow, hdone⟩ := h.fits
    cases hopen
    rw [h.lines_eq] at hslice
    refine ⟨outer, kind, start, done, rfl, rfl, ?_⟩
    have hnodes : (b.closed ⟨outer.nextId, start, (outer.inside kind start done).floor⟩ stop
        text).nodes = ((outer.add ⟨kind, ⟨start, stop⟩⟩ done).nodes lines []).toArray := by
      rw [nodes_closed, h.nodes_eq, Draft.nodes,
        modify_toArray_append _ _ _ (outer.length_nodes lines _), Draft.nodes_add]
      simp [NodeLabel.node, Piece.label, hslice]
    have hfits := outer.fits_add ⟨kind, ⟨start, stop⟩⟩ done houter hlow ⟨text, hslice⟩ hdone hstop
    have hnextId : (outer.add ⟨kind, ⟨start, stop⟩⟩ done).nextId ≤ maxNodes := by
      rw [Draft.nextId_add, Nat.add_right_comm]
      exact h.nextId_le
    -- The stop is noted with the node around, or at the top.
    cases outer with
    | topmost before =>
      obtain ⟨hopen, hreached⟩ := closed_of_topmost h.openNodes_eq stop text
      refine ⟨lines_closed.trans h.lines_eq, hnodes, hopen, hreached.trans ?_, hfits, hnextId⟩
      show stop = (before.append _).lastStop 0
      rw [Forest.lastStop_append]
      rfl
    | inside outer₂ kind₂ start₂ before =>
      obtain ⟨hopen, hreached⟩ := closed_of_inside h.openNodes_eq stop text
      refine ⟨lines_closed.trans h.lines_eq, hnodes, hopen.trans ?_, hreached.trans h.reached_eq,
        hfits, hnextId⟩
      have hfloor := Draft.floor_add ⟨kind, ⟨start, stop⟩⟩ done
        (outer₂.inside kind₂ start₂ before)
      exact congrArg (fun reached => ⟨outer₂.nextId, start₂, reached⟩ :: outer₂.openNodes)
        hfloor.symm

end Represents

/-! ## Runs -/

/-- The id and the start of the node that a call opens, if it does. A token whose closing is refused
has been opened all the same. -/
def opening? (b : Builder) : Call → Option (Nat × Nat)
  | .openNode kind start => (b.apply (.openNode kind start)).1.toOption.map (·, start)
  | .closeNode _ => none
  | .token kind span => (b.apply (.openNode kind span.start)).1.toOption.map (·, span.start)

/-- The id and the stop of the node that a call closes, if it does. -/
def closing? (b : Builder) : Call → Option (Nat × Nat)
  | .openNode _ _ => none
  | .closeNode stop => (b.apply (.closeNode stop)).1.toOption.map (·, stop)
  | .token kind span => (b.apply (.token kind span)).1.toOption.map (·, span.stop)

/-- What `read` finds in the calls of a run, in their order. -/
def collect (read : Builder → Call → Option (Nat × Nat)) (b : Builder) :
    List Call → List (Nat × Nat)
  | [] => []
  | call :: calls => (read b call).toList ++ (b.apply call).2.collect read calls

/-- The ids and starts of the nodes that calls open, in the order of the calls. -/
def openings (b : Builder) (calls : List Call) : List (Nat × Nat) :=
  b.collect opening? calls

/-- The ids and stops of the nodes that calls close, in the order of the calls. -/
def closings (b : Builder) (calls : List Call) : List (Nat × Nat) :=
  b.collect closing? calls

namespace Represents

variable {lines : LineIndex} {b : Builder} {d : Draft}

/-- **A call**, refused or not, leads to a draft with what the call has opened and closed. -/
theorem apply (h : Represents lines b d) (call : Call) :
    ∃ d', Represents lines (b.apply call).2 d' ∧ d'.starts = d.starts ++ (b.opening? call).toList ∧
      d'.stops = d.stops ++ (b.closing? call).toList := by
  cases call with
  | openNode kind start =>
    rw [opening?, closing?]
    obtain ⟨e, herror⟩ | ⟨id, next, hopen⟩ :=
      apply_eq_error_or_ok b (.openNode kind start) trivial
    · rw [herror]
      exact ⟨d, h, (List.append_nil _).symm, (List.append_nil _).symm⟩
    · obtain ⟨rfl, hnext⟩ := h.openNode hopen
      rw [hopen]
      exact ⟨_, hnext, rfl, rfl⟩
  | closeNode stop =>
    rw [opening?, closing?]
    obtain ⟨e, herror⟩ | ⟨id, next, hclose⟩ :=
      apply_eq_error_or_ok b (.closeNode stop) trivial
    · rw [herror]
      exact ⟨d, h, (List.append_nil _).symm, (List.append_nil _).symm⟩
    · obtain ⟨outer, kind, start, done, rfl, rfl, hnext⟩ := h.closeNode hclose
      rw [hclose]
      refine ⟨_, hnext, ?_, ?_⟩
      · rw [Draft.starts_add]
        simp [Draft.starts]
      · rw [Draft.stops_add]
        rfl
  | token kind span =>
    rw [opening?, closing?]
    obtain ⟨e, herror⟩ | ⟨id, opened, hopen⟩ :=
      apply_eq_error_or_ok b (.openNode kind span.start) trivial
    · rw [apply_token_of_error herror, herror]
      exact ⟨d, h, (List.append_nil _).symm, (List.append_nil _).symm⟩
    · obtain ⟨rfl, hopened⟩ := h.openNode hopen
      rw [apply_token_of_ok hopen, hopen]
      obtain ⟨e, herror⟩ | ⟨id, next, hclose⟩ :=
        apply_eq_error_or_ok opened (.closeNode span.stop) trivial
      · -- The token stays open, as a node that has been opened on its own.
        rw [herror]
        exact ⟨_, hopened, rfl, rfl⟩
      · obtain ⟨outer, kind', start, done, heq, rfl, hnext⟩ := hopened.closeNode hclose
        cases heq
        rw [hclose]
        refine ⟨_, hnext, ?_, ?_⟩
        · rw [Draft.starts_add]
          rfl
        · rw [Draft.stops_add]
          simp [Except.toOption, Forest.stops]

/-- **A run** leads to a draft with all that its calls have opened and closed. -/
theorem run (h : Represents lines b d) (calls : List Call) :
    ∃ d', Represents lines (b.run calls).2 d' ∧ d'.starts = d.starts ++ b.openings calls ∧
      d'.stops = d.stops ++ b.closings calls := by
  induction calls generalizing b d with
  | nil => exact ⟨d, h, by simp [openings, collect], by simp [closings, collect]⟩
  | cons call calls ih =>
    obtain ⟨mid, hmid, hstarts, hstops⟩ := h.apply call
    obtain ⟨last, hlast, hstarts', hstops'⟩ := ih hmid
    refine ⟨last, hlast, ?_, ?_⟩
    · rw [hstarts', hstarts, List.append_assoc]
      rfl
    · rw [hstops', hstops, List.append_assoc]
      rfl

end Represents

/-- Without open nodes the tree is that of the closed pieces. -/
theorem Represents.finish_eq {lines : LineIndex} {b : Builder} {F : Forest Piece}
    (h : Represents lines b (.topmost F)) :
    b.finish = .ok (.ofForest (Piece.label lines) F) := by
  rw [finish, h.openNodes_eq]
  show Except.ok (SyntaxTree.ofNodes b.nodes) = _
  rw [h.nodes_eq]
  rfl

/-- A tree is given only where no node is open. -/
theorem Represents.eq_topmost_of_finish {lines : LineIndex} {b : Builder} {d : Draft}
    {tree : SyntaxTree} (h : Represents lines b d) (hfinish : b.finish = .ok tree) :
    ∃ F, d = .topmost F ∧ tree = .ofForest (Piece.label lines) F := by
  cases d with
  | inside outer kind start done =>
    rw [finish, h.openNodes_eq] at hfinish
    cases hfinish
  | topmost done =>
    rw [h.finish_eq] at hfinish
    exact ⟨done, rfl, (Except.ok.inj hfinish).symm⟩

/-- **What a finished tree is**: the tree of a forest in order, whose spans are between the offsets
of the openings and closings. -/
theorem exists_forest_of_finish {source : String} {calls : List Call} {tree : SyntaxTree}
    (h : ((ofSource source).run calls).2.finish = .ok tree) :
    ∃ F : Forest Piece, tree = .ofForest (Piece.label (.ofSource source.toList)) F ∧
      F.Fits source.toList 0 ∧ (ofSource source).openings calls = F.starts 0 ∧
      (ofSource source).closings calls = F.stops 0 := by
  obtain ⟨d, hd, hstarts, hstops⟩ := (represents_ofSource source).run calls
  obtain ⟨F, rfl, rfl⟩ := hd.eq_topmost_of_finish h
  exact ⟨F, rfl, hd.fits, hstarts.symm, hstops.symm⟩

/-- A finished tree has no more nodes than there are ids. -/
theorem size_le_of_finish {source : String} {calls : List Call} {tree : SyntaxTree}
    (h : ((ofSource source).run calls).2.finish = .ok tree) : tree.size ≤ maxNodes := by
  obtain ⟨d, hd, -⟩ := (represents_ofSource source).run calls
  obtain ⟨F, rfl, rfl⟩ := hd.eq_topmost_of_finish h
  rw [SyntaxTree.size, SyntaxTree.ofForest, SyntaxTree.nodes_ofNodes, List.size_toArray,
    Forest.length_nodes, ← Nat.zero_add F.size]
  exact hd.nextId_le

end Builder

end DescriptiveLinks
