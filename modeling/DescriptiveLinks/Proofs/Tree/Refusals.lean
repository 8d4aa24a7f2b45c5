import DescriptiveLinks.Proofs.Tree.Accepted

/-! # Refused calls

An opening or a closing that is refused leaves the builder as it was: what calls lead to is what
those of them lead to that are not refused. A token is an opening and a closing in one call, and it
may be refused between the two.

* `Builder.accepted` lists the calls that are not refused.
* `Builder.finish_run_accepted` says that the others leave no trace.
* `Builder.apply_token_eq_self_iff` says when a refused token leaves none. -/

namespace DescriptiveLinks.Builder

variable {b opened : Builder} {call : Call} {calls : List Call} {id : Nat} {e : BuildError}

/-! ## Openings and closings -/

/-- The calls that are not refused when all of some calls are carried out. -/
def accepted (b : Builder) (calls : List Call) : List Call :=
  ((calls.zip (b.run calls).1).filter fun p => p.2.isOk).map Prod.fst

theorem accepted_cons_of_ok (h : (b.apply call).1 = .ok id) :
    b.accepted (call :: calls) = call :: (b.apply call).2.accepted calls := by
  rw [accepted, run_cons, List.zip_cons_cons, List.filter_cons_of_pos (by rw [h]; rfl)]
  rfl

theorem accepted_cons_of_error (h : (b.apply call).1 = .error e) :
    b.accepted (call :: calls) = (b.apply call).2.accepted calls := by
  rw [accepted, run_cons, List.zip_cons_cons, List.filter_cons_of_neg (by rw [h]; exact nofun)]
  rfl

/-- **Steps that are refused may be left out**: the others have the same outcomes without them, and
lead to the same builder. -/
theorem run_accepted (hcalls : ∀ call ∈ calls, call.IsStep) :
    b.run (b.accepted calls) = ((b.run calls).1.filter Except.isOk, (b.run calls).2) := by
  induction calls generalizing b with
  | nil => rfl
  | cons call calls ih =>
    obtain ⟨hcall, hcalls⟩ := List.forall_mem_cons.mp hcalls
    cases houtcome : (b.apply call).1 with
    | ok id =>
      rw [accepted_cons_of_ok houtcome, run_cons, ih hcalls, run_cons,
        List.filter_cons_of_pos (by rw [houtcome]; rfl)]
    | error e =>
      -- The builder is the same after the call, so the induction goes on from it.
      have hsame := apply_snd_of_error houtcome hcall
      rw [accepted_cons_of_error houtcome, hsame, ih hcalls, run_cons, hsame,
        List.filter_cons_of_neg (by rw [houtcome]; exact nofun)]

/-- **Refused openings and closings leave no trace**: without them the others give the same ids and
lead to the same builder, so the same tree comes out, or the same error. -/
theorem finish_run_accepted (source : String) (hcalls : ∀ call ∈ calls, call.IsStep) :
    ((ofSource source).run ((ofSource source).accepted calls)).2 =
        ((ofSource source).run calls).2 ∧
      ((ofSource source).run ((ofSource source).accepted calls)).1 =
        ((ofSource source).run calls).1.filter Except.isOk ∧
      ((ofSource source).run ((ofSource source).accepted calls)).2.finish =
        ((ofSource source).run calls).2.finish := by
  rw [run_accepted hcalls]
  exact ⟨rfl, rfl, rfl⟩

/-- A closing past the end, an opening past the end, and a closing inside a character are left
out. -/
theorem finish_run_accepted_of_retry :
    (ofSource "[é]").accepted [.openNode "link" 0, .closeNode 9, .openNode "label" 5, .closeNode 2,
        .closeNode 4] = [.openNode "link" 0, .closeNode 4] ∧
      ((ofSource "[é]").run [.openNode "link" 0, .closeNode 4]).2 =
        ((ofSource "[é]").run [.openNode "link" 0, .closeNode 9, .openNode "label" 5, .closeNode 2,
          .closeNode 4]).2 := by
  have haccepted : (ofSource "[é]").accepted [.openNode "link" 0, .closeNode 9, .openNode "label" 5,
      .closeNode 2, .closeNode 4] = [.openNode "link" 0, .closeNode 4] := by
    decide
  refine ⟨haccepted, ?_⟩
  rw [← haccepted]
  exact (finish_run_accepted "[é]" (by decide)).1

/-! ## Tokens -/

section Tokens

variable {lines : LineIndex} {d : Draft} {kind : String} {span : Span}

/-- An opening changes the builder. -/
theorem ne_of_apply_openNode {start : Nat} (h : b.apply (.openNode kind start) = (.ok id, opened)) :
    opened ≠ b := by
  obtain ⟨-, -, rfl⟩ := apply_openNode_eq_ok_iff.mp h
  intro heq
  have hopen := congrArg Builder.openNodes heq
  rw [openNodes_opened] at hopen
  exact List.cons_ne_self _ _ hopen

/-- **A token is refused** at its opening or at its closing, and then the opening remains. -/
theorem apply_token_eq_or_of_error (h : (b.apply (.token kind span)).1 = .error e) :
    ((b.apply (.openNode kind span.start)).1 = .error e ∧ (b.apply (.token kind span)).2 = b) ∨
      ∃ id opened, b.apply (.openNode kind span.start) = (.ok id, opened) ∧
        opened.apply (.closeNode span.stop) = (.error e, opened) ∧
        (b.apply (.token kind span)).2 = opened := by
  obtain ⟨e', herror⟩ | ⟨id, opened, hopen⟩ :=
    apply_eq_error_or_ok b (.openNode kind span.start) trivial
  · rw [apply_token_of_error herror] at h ⊢
    cases h
    exact .inl ⟨congrArg Prod.fst herror, rfl⟩
  · rw [apply_token_of_ok hopen] at h ⊢
    have hsame := apply_snd_of_error h trivial
    exact .inr ⟨id, opened, hopen, Prod.ext h hsame, hsame⟩

/-- Where a refused token changes the builder, what it leaves is an opening. -/
theorem apply_openNode_of_token_ne (h : (b.apply (.token kind span)).1 = .error e)
    (hne : (b.apply (.token kind span)).2 ≠ b) :
    ∃ id, b.apply (.openNode kind span.start) = (.ok id, (b.apply (.token kind span)).2) := by
  obtain ⟨-, hsame⟩ | ⟨id, opened, hopen, -, hleft⟩ := apply_token_eq_or_of_error h
  · exact absurd hsame hne
  · rw [hleft]
    exact ⟨id, hopen⟩

/-- A node that has just been opened can be closed where it covers a part of the source. -/
theorem Represents.exists_closeNode_of_openNode {start stop : Nat} (hd : Represents lines b d)
    (hopen : b.apply (.openNode kind start) = (.ok id, opened)) :
    (∃ id next, opened.apply (.closeNode stop) = (.ok id, next)) ↔
      ∃ part, Text.slice? start stop lines.source = some part := by
  obtain ⟨rfl, hopened⟩ := hd.openNode hopen
  constructor
  · rintro ⟨id, next, hclose⟩
    obtain ⟨rfl, -⟩ := hopened.closeNode_inside hclose
    exact (hopened.exists_closeNode_iff.mp ⟨next, hclose⟩).2
  · rintro ⟨part, hpart⟩
    -- There are no children yet, so their end is the start of the node.
    have hle := Text.le_of_slice?_eq_some hpart
    obtain ⟨next, hclose⟩ := hopened.exists_closeNode_iff.mpr ⟨hle, part, hpart⟩
    exact ⟨_, next, hclose⟩

/-- **A refused token leaves no trace** exactly where its span is a part of the source or its opening
is refused. -/
theorem Represents.token_leaves_self_iff (hd : Represents lines b d) (kind : String) (span : Span) :
    (∀ e, (b.apply (.token kind span)).1 = .error e → (b.apply (.token kind span)).2 = b) ↔
      (∃ part, Text.slice? span.start span.stop lines.source = some part) ∨
        span.start < d.floor ∨ Text.byteLength lines.source < span.start ∨
        d.nextId = maxNodes := by
  have hroom := hd.nextId_le
  have hplace : (∃ next, b.apply (.openNode kind span.start) = (.ok d.nextId, next)) ↔
      d.floor ≤ span.start ∧ span.start ≤ Text.byteLength lines.source ∧ d.nextId < maxNodes :=
    hd.exists_openNode_iff kind
  constructor
  · intro hsame
    by_cases hplaced : d.floor ≤ span.start ∧ span.start ≤ Text.byteLength lines.source ∧
        d.nextId < maxNodes
    · left
      obtain ⟨opened, hopen⟩ := hplace.mpr hplaced
      obtain ⟨e, herror⟩ | hclose :=
        apply_eq_error_or_ok opened (.closeNode span.stop) trivial
      · -- The node stays open, so the builder is not the same.
        have hresult : b.apply (.token kind span) = (.error e, opened) :=
          (apply_token_of_ok hopen).trans herror
        rw [hresult] at hsame
        exact absurd (hsame e rfl) (ne_of_apply_openNode hopen)
      · exact (hd.exists_closeNode_of_openNode hopen).mp hclose
    · right
      omega
  · intro hspan e herror
    obtain ⟨-, hsame⟩ | ⟨id, opened, hopen, hclose, -⟩ := apply_token_eq_or_of_error herror
    · exact hsame
    · obtain ⟨rfl, -⟩ := hd.openNode hopen
      have hstart := hplace.mp ⟨opened, hopen⟩
      obtain hpart | hstart' := hspan
      · obtain ⟨id, next, hok⟩ := (hd.exists_closeNode_of_openNode hopen).mpr hpart
        cases hclose.symm.trans hok
      · omega

end Tokens

/-- **What a refused token leaves behind**: wherever calls have led, it leaves the builder as it was
exactly where its span is a part of the source or its opening is refused. In any other case its node
has been opened and stays open. -/
theorem apply_token_eq_self_iff (source : String) (calls : List Call) (kind : String)
    (span : Span) :
    let b := ((ofSource source).run calls).2
    let result := b.apply (.token kind span)
    ((∀ e, result.1 = .error e → result.2 = b) ↔
      (∃ part, Text.slice? span.start span.stop source.toList = some part) ∨
        span.start < b.floor ∨ Text.byteLength source.toList < span.start ∨
        b.nodes.size = maxNodes) ∧
    ∀ e, result.1 = .error e → result.2 ≠ b →
      ∃ id, b.apply (.openNode kind span.start) = (.ok id, result.2) := by
  intro b result
  obtain ⟨d, hd, -⟩ := (represents_ofSource source).run calls
  have hfloor : b.floor = d.floor := hd.floor_eq
  have hsize : b.nodes.size = d.nextId := hd.size_nodes
  rw [hfloor, hsize]
  exact ⟨hd.token_leaves_self_iff kind span, fun e => apply_openNode_of_token_ne⟩

/-- **A token that is left open**: it is refused because it ends past the end of the source. -/
theorem not_always_eq_self_of_token :
    ¬ ∀ (source : String) (calls : List Call) (kind : String) (span : Span) (e : BuildError),
      (((ofSource source).run calls).2.apply (.token kind span)).1 = .error e →
        (((ofSource source).run calls).2.apply (.token kind span)).2 =
          ((ofSource source).run calls).2 := by
  intro h
  have hsame := h "ab" [] "labelText" ⟨0, 9⟩ _ rfl
  have hlength := congrArg (fun b : Builder => b.openNodes.length) hsame
  exact absurd hlength (by decide)

end DescriptiveLinks.Builder
