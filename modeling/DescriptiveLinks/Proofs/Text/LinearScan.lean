import DescriptiveLinks.Proofs.Text.Bytes
import DescriptiveLinks.Proofs.Text.Position

/-! # Positions by counting

The position of an offset is found by bisection in a table of line starts and by cutting the text.
Going along the bytes of the text from the beginning gives the same line and column: line feeds are
counted, and after the last of them characters, or bytes where the offset is inside a character. For
every offset the look-up in the table succeeds, and what it gives is not behind the offset.

* `Text.bytesOnLine` is what a line has before an offset, and `Text.IsCounted` says what line and
  column are by counting.
* `LineIndex.exists_isCounted_position` says that these are the line and the column of every offset,
  and which line bisection finds. -/

namespace DescriptiveLinks

namespace Text

/-- **Line and column by counting**, for an offset on a line that starts at `start`. -/
structure IsCounted (source : List Char) (offset start : Nat) (p : Position) : Prop where
  /-- The line is one more than the number of line feeds before the offset. -/
  line_eq : p.line = 1 + (bytesBefore source offset).count lineFeed
  /-- From the start of the line to the offset there are the bytes of the line before the offset. -/
  start_add : start + (bytesOnLine source offset).length = offset
  /-- Between characters, the column is one more than the number of characters from the start of the
  line to the offset. -/
  column_of_isBoundary : IsBoundary source offset →
    ∃ part, slice? start offset source = some part ∧ p.column = 1 + part.length
  /-- Inside a character, the column is one more than the number of bytes. -/
  column_of_not_isBoundary : ¬ IsBoundary source offset →
    p.column = 1 + (bytesOnLine source offset).length

end Text

namespace LineIndex

open Text

/-- An offset past the end counts as the end. -/
theorem position_min (m : LineIndex) (offset : Nat) :
    m.position (min offset (byteLength m.source)) = m.position offset := by
  rw [position, position, Nat.min_assoc, Nat.min_self]

variable {before after : List Char} {offset : Nat}

/-- Inside a character, the column counts the bytes from the start of the line. -/
theorem column_of_not_isBoundary {source : List Char} (hbound : offset ≤ byteLength source)
    (h : ¬ IsBoundary source offset) :
    ((ofSource source).position offset).column
      = offset - (ofSource source).lineStart ((ofSource source).lineAt offset) + 1 := by
  have hslice : ∀ start, slice? start offset source = none := fun start =>
    Option.eq_none_iff_forall_ne_some.mpr fun part hpart =>
      h (isBoundary_stop_of_slice? hpart)
  rw [position]
  simp only [source_ofSource, Nat.min_eq_left hbound, hslice]

/-- The line is the one that bisection finds. -/
theorem line_eq_lineAt {source : List Char} (hbound : offset ≤ byteLength source) :
    ((ofSource source).position offset).line = (ofSource source).lineAt offset + 1 := by
  rw [position]
  simp only [source_ofSource, Nat.min_eq_left hbound]

/-- The position of an offset that is not past the end is the counted one. -/
theorem isCounted_position (hle : byteLength before ≤ offset)
    (hlt : ∀ c ∈ after.head?, offset < byteLength before + c.utf8Size)
    (hbound : offset ≤ byteLength (before ++ after)) {whole : List Char}
    (hwhole : before = whole ++ lastLine before)
    (hstart : (ofSource (before ++ after)).starts[before.count '\n']? = some (byteLength whole)) :
    IsCounted (before ++ after) offset (byteLength whole)
      ((ofSource (before ++ after)).position offset) := by
  have hline := lineAt_eq hle hlt
  have hadd := add_length_bytesOnLine hle hlt hbound hwhole
  constructor
  · rw [line_eq_lineAt hbound, hline, count_bytesBefore hle hlt, Nat.add_comm]
  · exact hadd
  · -- Between characters nothing of the next character is before the offset.
    intro hcut
    obtain rfl := (isBoundary_cut_iff hle hlt).mp hcut
    refine ⟨lastLine before, slice?_lastLine hwhole after, ?_⟩
    rw [position_eq]
    exact Nat.add_comm _ _
  · intro hcut
    rw [column_of_not_isBoundary hbound hcut, hline, lineStart, hstart, Option.getD_some]
    omega

/-- **The position of an offset is found by counting** along the text as far as the offset, or as the
end of the text if the offset is past it. The line that bisection finds is in the table of line
starts, where the lines up to it are those that start at or before the offset. -/
theorem exists_isCounted_position (source : List Char) (offset : Nat) :
    ∃ stop start, stop = min offset (byteLength source) ∧
      (ofSource source).starts[(ofSource source).lineAt stop]? = some start ∧
      IsCounted source stop start ((ofSource source).position offset) ∧
      ∀ i < (ofSource source).starts.size,
        (ofSource source).lineStart i ≤ stop ↔ i ≤ (ofSource source).lineAt stop := by
  have hposition := position_min (ofSource source) offset
  have hbound := Nat.min_le_right offset (byteLength source)
  rw [source_ofSource] at hposition
  -- What is left is about an offset that is not past the end, wherever it is in its character.
  generalize min offset (byteLength source) = stop at hbound hposition ⊢
  obtain ⟨before, after, rfl, hle, hlt⟩ := exists_cut hbound
  obtain ⟨whole, hwhole, hstart⟩ := getElem?_starts_count before after
  have hline := lineAt_eq hle hlt
  refine ⟨stop, byteLength whole, rfl, by rw [hline, hstart], ?_, fun i hi => ?_⟩
  · rw [← hposition]
    exact isCounted_position hle hlt hbound hwhole hstart
  · -- The characters before the offset tell which lines start there, also inside a character.
    rw [hline]
    exact lineStart_le_iff hle hlt hi

/-- Inside a character, and past the end. -/
example : (ofSource "é\n\nb".toList).position 1 = ⟨1, 2⟩ ∧
    (ofSource "é\n\nb".toList).position 9 = ⟨3, 2⟩ := by
  decide +kernel

end LineIndex

end DescriptiveLinks
