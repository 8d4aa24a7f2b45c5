import DescriptiveLinks.Text.Span
import DescriptiveLinks.Tree.Basic

/-! # Building syntax trees

A `Builder` makes a syntax tree over a source text from calls in document order: a node is
opened at a byte offset, its children are built, and it is closed at another offset. Texts and
positions come from the source. A node may not start before the end of its preceding sibling or
before the start of its parent, and not end before the end of its last child.

A call is an action on the builder that goes on step by step until it is done or refused. Nothing is
undone when it is refused: what it has changed until then remains. An opening and a closing change
nothing before they have made all their checks, but a token is a node opened and closed at once, and
stays open if it is its closing that is refused. -/

namespace DescriptiveLinks

/-- Why a call to a tree builder is refused. -/
inductive BuildError where
  /-- The span of a node is not one of the source. -/
  | span (e : SpanError)
  /-- A node starts or ends where its neighbours do not let it. -/
  | misplaced (kind : String) (start stop : Nat)
  /-- There is no node to close. -/
  | nothingOpen
  /-- The tree is asked for while nodes are still open. -/
  | stillOpen (count : Nat)
  /-- There is no id left for a node. -/
  | tooLarge
deriving DecidableEq, Repr

/-- The text of the error. -/
def BuildError.message : BuildError → String
  | span e => e.message
  | misplaced kind start stop =>
    s!"node `{kind}` at {start}..{stop} escapes its parent or overlaps a sibling"
  | nothingOpen => "no open node to finish"
  | stillOpen count => s!"{count} node(s) left open"
  | tooLarge => tooLargeMessage

/-- A node that has been opened and not yet closed. -/
structure OpenNode where
  /-- The id. -/
  id : Nat
  /-- The offset at which the node starts. -/
  start : Nat
  /-- The offset that its children have reached: where the last of them ends, or where the node
  itself starts if it has none. -/
  reached : Nat
deriving DecidableEq, Repr

/-- A syntax tree under construction. -/
structure Builder where
  /-- The source text and its lines. -/
  lines : LineIndex
  /-- The nodes so far, by id. Those still open have no text yet. -/
  nodes : Array NodeData
  /-- The open nodes, the innermost first. -/
  openNodes : List OpenNode
  /-- The offset that the topmost nodes have reached: where the last of them ends. -/
  reached : Nat

namespace Builder

/-- The builder over a source text before any call. -/
def ofSource (source : String) : Builder where
  lines := .ofSource source.toList
  nodes := #[]
  openNodes := []
  reached := 0

/-- The offset before which no node may start now. -/
def floor (b : Builder) : Nat :=
  match b.openNodes with
  | [] => b.reached
  | parent :: _ => max parent.reached parent.start

/-- The type that was given to an open node. -/
def kindOf (b : Builder) (id : Nat) : String :=
  (b.nodes[id]?.map NodeData.kind).getD ""

/-! ## Changes -/

/-- Puts a node at the end of the table. -/
def push (node : NodeData) (b : Builder) : Builder :=
  { b with nodes := b.nodes.push node }

/-- Notes the id of a new node with the innermost open node. -/
def adopt (id : Nat) (b : Builder) : Builder :=
  match b.openNodes with
  | [] => b
  | parent :: _ => { b with nodes := addChild b.nodes parent.id id }

/-- Makes a node the innermost open one. -/
def enter (n : OpenNode) (b : Builder) : Builder :=
  { b with openNodes := n :: b.openNodes }

/-- Takes away the innermost open node. -/
def leave (b : Builder) : Builder :=
  { b with openNodes := b.openNodes.tail }

/-- Gives the node `id` its text. -/
def setText (id : Nat) (text : List Char) (b : Builder) : Builder :=
  { b with nodes := b.nodes.modify id fun n => { n with text := String.ofList text } }

/-- Notes where a node ends, with the innermost open node or for the topmost nodes. -/
def reach (stop : Nat) (b : Builder) : Builder :=
  match b.openNodes with
  | [] => { b with reached := stop }
  | parent :: outer => { b with openNodes := { parent with reached := stop } :: outer }

/-! ## Calls -/

/-- An **action** on a builder: it gives a result or is refused, and either way there is a builder
after it, with everything that the action has changed. -/
abbrev Action (α : Type) := ExceptT BuildError (StateM Builder) α

/-- Carries out an action on a builder: its result or why it is refused, and the builder after
it. -/
def Action.on {α : Type} (x : Action α) (b : Builder) : Except BuildError α × Builder :=
  x.run.run b

/-- Opens a node and gives its id. -/
def openNode (kind : String) (start : Nat) : Action Nat := do
  let b ← get
  if start < b.floor ∨ Text.byteLength b.lines.source < start then
    throw (.misplaced kind start start)
  else
    let some id := nextId? b.nodes | throw .tooLarge
    modify (push ⟨kind, "", b.lines.position start, []⟩)
    modify (adopt id)
    modify (enter ⟨id, start, start⟩)
    return id

/-- Closes the innermost open node and gives its id. -/
def closeNode (stop : Nat) : Action Nat := do
  let b ← get
  match b.openNodes with
  | [] => throw .nothingOpen
  | n :: _ =>
    let span ← (Span.ofBounds n.start stop).mapError BuildError.span
    if stop < n.reached then
      throw (.misplaced (b.kindOf n.id) span.start span.stop)
    else
      let text ← (span.slice b.lines.source).mapError BuildError.span
      modify leave
      modify (setText n.id text)
      modify (reach stop)
      return n.id

/-- Adds a node without children and gives its id. -/
def addToken (kind : String) (span : Span) : Action Nat := do
  let _ ← openNode kind span.start
  closeNode span.stop

/-- A call to a builder. -/
inductive Call where
  /-- Opens a node. -/
  | openNode (kind : String) (start : Nat)
  /-- Closes the innermost open node. -/
  | closeNode (stop : Nat)
  /-- Adds a node without children. -/
  | token (kind : String) (span : Span)
deriving DecidableEq, Repr

/-- What a call does. -/
def Call.action : Call → Action Nat
  | .openNode kind start => Builder.openNode kind start
  | .closeNode stop => Builder.closeNode stop
  | .token kind span => addToken kind span

/-- Carries out a call: the id of its node or why it is refused, and the builder after it. -/
def apply (b : Builder) (call : Call) : Except BuildError Nat × Builder :=
  call.action.on b

/-- Carries out calls one after the other, refused ones included: their outcomes and the builder
after the last of them. -/
def run (b : Builder) : List Call → List (Except BuildError Nat) × Builder
  | [] => ([], b)
  | call :: calls =>
    let (outcome, next) := b.apply call
    let (outcomes, last) := next.run calls
    (outcome :: outcomes, last)

@[simp] theorem run_nil (b : Builder) : b.run [] = ([], b) := rfl

@[simp] theorem run_cons (b : Builder) (call : Call) (calls : List Call) :
    b.run (call :: calls)
      = ((b.apply call).1 :: ((b.apply call).2.run calls).1, ((b.apply call).2.run calls).2) := rfl

/-- The tree, once every node is closed. -/
def finish (b : Builder) : Except BuildError SyntaxTree :=
  match b.openNodes with
  | [] => .ok (.ofNodes b.nodes)
  | n :: outer => .error (.stillOpen (n :: outer).length)

end Builder

end DescriptiveLinks
