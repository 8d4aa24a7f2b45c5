import DescriptiveLinks.Text.Offset

/-! # Spans

A span is a pair of byte offsets into a source text. Its bounds are taken as they come: whether they
are in order, inside the text and between characters is asked by the operation that needs it. -/

namespace DescriptiveLinks

/-- A range of byte offsets, `stop` not included. -/
structure Span where
  /-- The offset of the first byte. -/
  start : Nat
  /-- The offset just past the last byte. -/
  stop : Nat
deriving DecidableEq, Repr

/-- Why a span is refused. -/
inductive SpanError where
  /-- The span ends before it starts. -/
  | inverted (start stop : Nat)
  /-- The span does not cut a source of `length` bytes between its characters. -/
  | outOfBounds (start stop length : Nat)
deriving DecidableEq, Repr

/-- The text of the error. -/
def SpanError.message : SpanError → String
  | inverted start stop => s!"span {start}..{stop} is inverted"
  | outOfBounds start stop length =>
    s!"span {start}..{stop} is outside the source or splits a character (source length {length})"

namespace Span

/-- The span of a text that starts at an offset. -/
def ofText (start : Nat) (text : List Char) : Span :=
  ⟨start, start + Text.byteLength text⟩

/-- The span between two offsets, which must be in order. -/
def ofBounds (start stop : Nat) : Except SpanError Span :=
  if start ≤ stop then .ok ⟨start, stop⟩ else .error (.inverted start stop)

/-- The text that a span covers. -/
def slice (s : Span) (source : List Char) : Except SpanError (List Char) :=
  match Text.slice? s.start s.stop source with
  | some part => .ok part
  | none => .error (.outOfBounds s.start s.stop (Text.byteLength source))

theorem ofBounds_of_le {start stop : Nat} (h : start ≤ stop) :
    ofBounds start stop = .ok ⟨start, stop⟩ := by
  simp [ofBounds, h]

end Span

end DescriptiveLinks
