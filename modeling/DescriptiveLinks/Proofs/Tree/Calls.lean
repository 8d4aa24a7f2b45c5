import DescriptiveLinks.Proofs.Text.Slice
import DescriptiveLinks.Tree.Builder

/-! # What calls do

A call to a builder is an action that makes checks and changes one after the other. Put together they
come to an equation for each sort of call, with the builder that is left in every case: where the
call is refused, and where it is done. Nothing but these equations looks into the actions.

* `Builder.apply_openNode` and `Builder.apply_closeNode_of_cons` are the equations.
* `Builder.apply_openNode_eq_ok_iff` and `Builder.apply_closeNode_eq_ok_iff` say which calls are
  accepted, and what they lead to.
* `Builder.apply_eq_error_or_ok` says that an opening or a closing that is refused has changed
  nothing. -/

namespace DescriptiveLinks.Builder

/-! ## Actions -/

namespace Action

variable {α β : Type} (b : Builder)

theorem on_throw (e : BuildError) : (throw e : Action α).on b = (.error e, b) :=
  rfl

theorem on_get_bind (f : Builder → Action α) : (get >>= f).on b = (f b).on b :=
  rfl

/-- A check that succeeds leaves the rest to be done. -/
theorem on_ok_bind (a : α) (f : α → Action β) :
    (liftM (Except.ok a : Except BuildError α) >>= f : Action β).on b = (f a).on b :=
  rfl

/-- A check that fails leaves the builder as it is at that time. -/
theorem on_error_bind (e : BuildError) (f : α → Action β) :
    (liftM (Except.error e : Except BuildError α) >>= f : Action β).on b = (.error e, b) :=
  rfl

variable {b} {x : Action α} {next : Builder}

theorem on_bind_of_ok {a : α} (h : x.on b = (.ok a, next)) (f : α → Action β) :
    (x >>= f).on b = (f a).on next := by
  show (ExceptT.bindCont f (x.on b).1) (x.on b).2 = _
  rw [h]
  rfl

theorem on_bind_of_error {e : BuildError} (h : x.on b = (.error e, next)) (f : α → Action β) :
    (x >>= f).on b = (.error e, next) := by
  show (ExceptT.bindCont f (x.on b).1) (x.on b).2 = _
  rw [h]
  rfl

end Action

variable {b next : Builder} {kind : String} {start stop id : Nat} {n : OpenNode}
  {outer : List OpenNode} {text : List Char} {e : BuildError} {call : Call}

/-! ## Changes -/

@[simp] theorem lines_adopt (b : Builder) (id : Nat) : (b.adopt id).lines = b.lines := by
  rw [adopt]
  split <;> rfl

@[simp] theorem openNodes_adopt (b : Builder) (id : Nat) :
    (b.adopt id).openNodes = b.openNodes := by
  rw [adopt]
  split <;> rfl

@[simp] theorem reached_adopt (b : Builder) (id : Nat) : (b.adopt id).reached = b.reached := by
  rw [adopt]
  split <;> rfl

@[simp] theorem lines_reach (b : Builder) (stop : Nat) : (b.reach stop).lines = b.lines := by
  rw [reach]
  split <;> rfl

@[simp] theorem nodes_reach (b : Builder) (stop : Nat) : (b.reach stop).nodes = b.nodes := by
  rw [reach]
  split <;> rfl

/-! ## Openings -/

/-- The builder in which a node has been opened. -/
def opened (b : Builder) (kind : String) (start : Nat) : Builder :=
  let id := b.nodes.size
  ((b.push ⟨kind, "", b.lines.position start, []⟩).adopt id).enter ⟨id, start, start⟩

theorem lines_opened : (b.opened kind start).lines = b.lines :=
  lines_adopt _ _

theorem openNodes_opened :
    (b.opened kind start).openNodes = ⟨b.nodes.size, start, start⟩ :: b.openNodes :=
  congrArg (_ :: ·) (openNodes_adopt _ _)

theorem reached_opened : (b.opened kind start).reached = b.reached :=
  reached_adopt _ _

/-- **What an opening does**, and that it does nothing where it is refused. -/
theorem apply_openNode (b : Builder) (kind : String) (start : Nat) :
    b.apply (.openNode kind start) =
      if start < b.floor ∨ Text.byteLength b.lines.source < start then
        (.error (.misplaced kind start start), b)
      else if b.nodes.size < maxNodes then (.ok b.nodes.size, b.opened kind start)
      else (.error .tooLarge, b) := by
  rw [apply, Call.action, openNode, Action.on_get_bind]
  split
  · rw [Action.on_throw]
  · by_cases hroom : b.nodes.size < maxNodes
    · rw [if_pos hroom, nextId?, if_pos hroom]
      rfl
    · rw [if_neg hroom, nextId?, if_neg hroom]
      rfl

/-- **An opening is accepted** at an offset between the two bounds, as long as there are ids. -/
theorem apply_openNode_eq_ok_iff :
    b.apply (.openNode kind start) = (.ok id, next) ↔
      (b.floor ≤ start ∧ start ≤ Text.byteLength b.lines.source ∧ b.nodes.size < maxNodes) ∧
        b.nodes.size = id ∧ b.opened kind start = next := by
  rw [apply_openNode]
  split
  · exact iff_of_false nofun (by omega)
  · split
    · rw [Prod.mk.injEq, Except.ok.injEq]
      exact (and_iff_right (by omega)).symm
    · exact iff_of_false nofun (by omega)

/-! ## Closings -/

/-- The builder in which the innermost open node has been closed with a given text. -/
def closed (b : Builder) (n : OpenNode) (stop : Nat) (text : List Char) : Builder :=
  (b.leave.setText n.id text).reach stop

theorem lines_closed : (b.closed n stop text).lines = b.lines :=
  lines_reach _ _

/-- Only the text of the node is new in the table. -/
theorem nodes_closed :
    (b.closed n stop text).nodes
      = b.nodes.modify n.id fun data => { data with text := String.ofList text } :=
  nodes_reach _ _

theorem closed_of_topmost (h : b.openNodes = [n]) (stop : Nat) (text : List Char) :
    (b.closed n stop text).openNodes = [] ∧ (b.closed n stop text).reached = stop := by
  have hleave : (b.leave.setText n.id text).openNodes = [] := congrArg List.tail h
  rw [closed, reach, hleave]
  exact ⟨rfl, rfl⟩

theorem closed_of_inside {parent : OpenNode} (h : b.openNodes = n :: parent :: outer) (stop : Nat)
    (text : List Char) :
    (b.closed n stop text).openNodes = { parent with reached := stop } :: outer ∧
      (b.closed n stop text).reached = b.reached := by
  have hleave : (b.leave.setText n.id text).openNodes = parent :: outer := congrArg List.tail h
  rw [closed, reach, hleave]
  exact ⟨rfl, rfl⟩

/-- The text that closing the open node `n` at `stop` would give it, or why it is refused. -/
def closedText (b : Builder) (n : OpenNode) (stop : Nat) : Except BuildError (List Char) :=
  match Span.ofBounds n.start stop with
  | .error e => .error (.span e)
  | .ok span =>
    if stop < n.reached then .error (.misplaced (b.kindOf n.id) span.start span.stop)
    else (span.slice b.lines.source).mapError .span

theorem apply_closeNode_of_nil (h : b.openNodes = []) (stop : Nat) :
    b.apply (.closeNode stop) = (.error .nothingOpen, b) := by
  rw [apply, Call.action, closeNode, Action.on_get_bind, h]
  rfl

/-- **What a closing does**, and that it does nothing where it is refused. -/
theorem apply_closeNode_of_cons (h : b.openNodes = n :: outer) (stop : Nat) :
    b.apply (.closeNode stop) =
      match b.closedText n stop with
      | .error e => (.error e, b)
      | .ok text => (.ok n.id, b.closed n stop text) := by
  rw [apply, Call.action, closeNode, Action.on_get_bind, h, closedText]
  dsimp only
  cases Span.ofBounds n.start stop with
  | error e => exact Action.on_error_bind b _ _
  | ok span =>
    refine (Action.on_ok_bind b span _).trans ?_
    dsimp only
    split
    · rw [Action.on_throw]
    · cases span.slice b.lines.source with
      | error e => exact Action.on_error_bind b _ _
      | ok text => rfl

/-- A span gives a node its text where it lies between characters and holds the children. -/
theorem closedText_eq_ok_iff :
    b.closedText n stop = .ok text ↔
      n.reached ≤ stop ∧ Text.slice? n.start stop b.lines.source = some text := by
  rw [closedText]
  by_cases hle : n.start ≤ stop
  · rw [Span.ofBounds_of_le hle]
    dsimp only
    by_cases hreached : stop < n.reached
    · rw [if_pos hreached]
      exact iff_of_false (by simp) (by omega)
    · rw [if_neg hreached, Span.slice, and_iff_right (Nat.not_lt.mp hreached)]
      cases Text.slice? n.start stop b.lines.source with
      | none =>
        show Except.error _ = Except.ok text ↔ _
        simp
      | some part =>
        show Except.ok part = Except.ok text ↔ _
        rw [Except.ok.injEq, Option.some.injEq]
  · rw [Span.ofBounds, if_neg hle]
    exact iff_of_false (by simp) fun h => hle (Text.le_of_slice?_eq_some h.2)

/-- **A closing is accepted** where a node is open, its span holds its children, and it cuts the
source between characters. -/
theorem apply_closeNode_eq_ok_iff :
    b.apply (.closeNode stop) = (.ok id, next) ↔
      ∃ n outer text, b.openNodes = n :: outer ∧
        (n.reached ≤ stop ∧ Text.slice? n.start stop b.lines.source = some text) ∧
        n.id = id ∧ b.closed n stop text = next := by
  cases hopen : b.openNodes with
  | nil =>
    rw [apply_closeNode_of_nil hopen]
    exact iff_of_false nofun nofun
  | cons n outer =>
    rw [apply_closeNode_of_cons hopen]
    constructor
    · intro h
      cases htext : b.closedText n stop with
      | error e =>
        rw [htext] at h
        cases h
      | ok text =>
        rw [htext] at h
        obtain ⟨hid, hnext⟩ := Prod.mk.inj h
        exact ⟨n, outer, text, rfl, closedText_eq_ok_iff.mp htext, Except.ok.inj hid, hnext⟩
    · rintro ⟨_, _, text, ⟨rfl, rfl⟩, htext, rfl, rfl⟩
      rw [closedText_eq_ok_iff.mpr htext]

/-! ## Refusals -/

/-- Whether a call is a single step: it opens a node or closes one. -/
def Call.IsStep : Call → Prop
  | .openNode .. | .closeNode _ => True
  | .token .. => False

instance (call : Call) : Decidable call.IsStep :=
  match call with
  | .openNode .. | .closeNode _ => isTrue trivial
  | .token .. => isFalse not_false

/-- **A step makes all checks before the first change**: it is refused and leaves the builder as it
is, or it is done. -/
theorem apply_eq_error_or_ok (b : Builder) (call : Call) (hcall : call.IsStep) :
    (∃ e, b.apply call = (.error e, b)) ∨ ∃ id next, b.apply call = (.ok id, next) := by
  cases call with
  | openNode kind start =>
    rw [apply_openNode]
    split
    · exact .inl ⟨_, rfl⟩
    · split
      · exact .inr ⟨_, _, rfl⟩
      · exact .inl ⟨_, rfl⟩
  | closeNode stop =>
    cases hopen : b.openNodes with
    | nil => exact .inl ⟨_, apply_closeNode_of_nil hopen stop⟩
    | cons n outer =>
      rw [apply_closeNode_of_cons hopen]
      cases b.closedText n stop with
      | error e => exact .inl ⟨e, rfl⟩
      | ok text => exact .inr ⟨_, _, rfl⟩
  | token kind span => exact hcall.elim

theorem apply_snd_of_error (h : (b.apply call).1 = .error e) (hcall : call.IsStep) :
    (b.apply call).2 = b := by
  obtain ⟨e', herror⟩ | ⟨id, next, hok⟩ := apply_eq_error_or_ok b call hcall
  · rw [herror]
  · rw [hok] at h
    cases h

/-! ## Tokens -/

theorem apply_token_of_ok {span : Span}
    (h : b.apply (.openNode kind span.start) = (.ok id, next)) :
    b.apply (.token kind span) = next.apply (.closeNode span.stop) :=
  Action.on_bind_of_ok h fun _ => Builder.closeNode span.stop

theorem apply_token_of_error {span : Span}
    (h : b.apply (.openNode kind span.start) = (.error e, next)) :
    b.apply (.token kind span) = (.error e, next) :=
  Action.on_bind_of_error h fun _ => Builder.closeNode span.stop

end DescriptiveLinks.Builder
