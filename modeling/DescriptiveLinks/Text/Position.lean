import DescriptiveLinks.Text.Offset

/-! # Lines and columns

Reports name places by line and column, both counted from one. A `LineIndex` holds the offsets at
which the lines of a source start, so that `LineIndex.position` finds the line of an offset by
bisection. -/

namespace DescriptiveLinks

/-- A place in a text as editors show it. -/
structure Position where
  /-- The line, counted from one. -/
  line : Nat
  /-- The column in characters, counted from one. -/
  column : Nat
deriving DecidableEq, Repr

/-- The offsets just past the line feeds of a text that itself starts at `offset`. -/
def lineStartsFrom (offset : Nat) : List Char → List Nat
  | [] => []
  | c :: cs =>
    if c = '\n' then (offset + c.utf8Size) :: lineStartsFrom (offset + c.utf8Size) cs
    else lineStartsFrom (offset + c.utf8Size) cs

/-- The offsets at which the lines of a text start, in increasing order. -/
def lineStarts (source : List Char) : List Nat :=
  0 :: lineStartsFrom 0 source

/-- A source text together with its line starts. -/
structure LineIndex where
  /-- The text. -/
  source : List Char
  /-- The offsets at which its lines start. -/
  starts : Array Nat
  /-- The starts are those of the text. -/
  starts_eq : starts = (lineStarts source).toArray

namespace LineIndex

/-- The index of a text. -/
def ofSource (source : List Char) : LineIndex where
  source := source
  starts := (lineStarts source).toArray
  starts_eq := rfl

@[simp] theorem source_ofSource (source : List Char) : (ofSource source).source = source := rfl

/-- The offset at which the line with index `i`, counted from zero, starts. -/
def lineStart (m : LineIndex) (i : Nat) : Nat :=
  m.starts[i]?.getD 0

/-- What the search for a line that starts at a given offset comes to. -/
inductive Search where
  /-- The line with this index starts there. -/
  | hit (index : Nat)
  /-- No line starts there; one that did would have this index. -/
  | gap (index : Nat)
deriving DecidableEq, Repr

/-- Searches for a line that starts at `offset`, among those from `low` up to but not including
`high`. -/
def search (m : LineIndex) (offset low high : Nat) : Search :=
  if low < high then
    let mid := (low + high) / 2
    match compare (m.lineStart mid) offset with
    | .eq => .hit mid
    | .lt => m.search offset (mid + 1) high
    | .gt => m.search offset low mid
  else .gap low
termination_by high - low

/-- The line, counted from zero, that holds an offset. -/
def lineAt (m : LineIndex) (offset : Nat) : Nat :=
  match m.search offset 0 m.starts.size with
  | .hit i => i
  | .gap i => i - 1

/-- The **position** of a byte offset; an offset past the end counts as the end. Columns count
characters, but inside a character, where no character can be counted, they count bytes. -/
def position (m : LineIndex) (offset : Nat) : Position :=
  let offset := min offset (Text.byteLength m.source)
  let line := m.lineAt offset
  let start := m.lineStart line
  let column :=
    match Text.slice? start offset m.source with
    | some part => part.length
    | none => offset - start
  ⟨line + 1, column + 1⟩

end LineIndex

end DescriptiveLinks
