import DescriptiveLinks.Proofs.Tree.Draft

/-! # Accepted calls

When a builder accepts a call, and what it stands for afterwards.

* `Builder.Represents.exists_openNode_iff` and `Builder.Represents.exists_closeNode_iff` say which
  offsets are accepted.
* `Builder.Accepts` says that none of several calls is refused. -/

namespace DescriptiveLinks

namespace Builder

/-! ## One call -/

/-- The outcome of a call together with the builder after it. -/
theorem apply_eq_of_fst {b : Builder} {call : Call} {id : Nat} (h : (b.apply call).1 = .ok id) :
    b.apply call = (.ok id, (b.apply call).2) :=
  Prod.ext h rfl

namespace Represents

variable {lines : LineIndex} {b next : Builder} {d outer : Draft} {kind : String}
  {start stop id : Nat} {done : Forest Piece}

/-- **An opening is accepted** at every offset that is not before what has been reached and not
past the end of the source, be it inside a character, as long as there are ids. -/
theorem exists_openNode_iff (h : Represents lines b d) (kind : String) :
    (∃ next, b.apply (.openNode kind start) = (.ok d.nextId, next)) ↔
      d.floor ≤ start ∧ start ≤ Text.byteLength lines.source ∧ d.nextId < maxNodes := by
  rw [← h.floor_eq, ← h.size_nodes, ← h.lines_eq]
  constructor
  · rintro ⟨next, hopen⟩
    exact (apply_openNode_eq_ok_iff.mp hopen).1
  · intro hplace
    exact ⟨_, apply_openNode_eq_ok_iff.mpr ⟨hplace, rfl, rfl⟩⟩

/-- **A closing is accepted** at every offset that is not before the end of the last child and at
which the node covers a part of the source. -/
theorem exists_closeNode_iff (h : Represents lines b (.inside outer kind start done)) :
    (∃ next, b.apply (.closeNode stop) = (.ok outer.nextId, next)) ↔
      done.lastStop start ≤ stop ∧ ∃ part, Text.slice? start stop lines.source = some part := by
  rw [← h.lines_eq]
  constructor
  · rintro ⟨next, hclose⟩
    obtain ⟨n, rest, text, hopen, ⟨hstop, hslice⟩, -⟩ := apply_closeNode_eq_ok_iff.mp hclose
    cases h.openNodes_eq.symm.trans hopen
    exact ⟨hstop, text, hslice⟩
  · rintro ⟨hstop, part, hslice⟩
    exact ⟨_, apply_closeNode_eq_ok_iff.mpr
      ⟨_, _, part, h.openNodes_eq, ⟨hstop, hslice⟩, rfl, rfl⟩⟩

/-- What a closing leads to where it is known which node is open. -/
theorem closeNode_inside (h : Represents lines b (.inside outer kind start done))
    (hclose : b.apply (.closeNode stop) = (.ok id, next)) :
    id = outer.nextId ∧ Represents lines next (outer.add ⟨kind, ⟨start, stop⟩⟩ done) := by
  obtain ⟨outer', kind', start', done', heq, hid, hnext⟩ := h.closeNode hclose
  cases heq
  exact ⟨hid, hnext⟩

end Represents

/-! ## Several calls -/

/-- Whether none of some calls is refused. -/
def Accepts (b : Builder) (calls : List Call) : Prop :=
  ∀ outcome ∈ (b.run calls).1, ∃ id, outcome = .ok id

@[simp] theorem accepts_nil (b : Builder) : b.Accepts [] := by
  simp [Accepts]

theorem accepts_cons {b : Builder} {call : Call} {calls : List Call} :
    b.Accepts (call :: calls) ↔
      (∃ id, (b.apply call).1 = .ok id) ∧ (b.apply call).2.Accepts calls := by
  rw [Accepts, run_cons, List.forall_mem_cons]
  rfl

theorem run_append (b : Builder) (calls more : List Call) :
    b.run (calls ++ more)
      = ((b.run calls).1 ++ ((b.run calls).2.run more).1, ((b.run calls).2.run more).2) := by
  induction calls generalizing b with
  | nil => rfl
  | cons call calls ih => rw [List.cons_append, run_cons, ih, run_cons, List.cons_append]

theorem accepts_append {b : Builder} {calls more : List Call} :
    b.Accepts (calls ++ more) ↔ b.Accepts calls ∧ (b.run calls).2.Accepts more := by
  rw [Accepts, run_append, List.forall_mem_append]
  rfl

end Builder

end DescriptiveLinks
