import DescriptiveLinks.Unicode.WhiteSpace

/-! # Modes of a pattern

How a pattern is read depends on flags that stand in it, and that hold up to the end of the group
they stand in. Two of them matter for whether it is one.

* `Mode.skip` leaves out white space and comments, where the mode allows them.
* `Mode.withFlags?` sets flags. -/

namespace DescriptiveLinks.Text.Pattern

open Unicode

/-- How a pattern is read. -/
structure Mode where
  /-- Whether it is about characters, and not about bytes. -/
  unicode : Bool := true
  /-- Whether white space and comments stand between its parts. -/
  verbose : Bool := false
deriving DecidableEq, Repr

/-- Leaves out white space and comments, which start with a number sign and end with the line. -/
def skipBlank (inComment : Bool) : List Char → List Char
  | [] => []
  | c :: s =>
    if inComment then skipBlank (c ≠ '\n') s
    else if isWhiteSpace c then skipBlank false s
    else if c = '#' then skipBlank true s
    else c :: s

namespace Mode

/-- The text from its next part on. -/
def skip (m : Mode) (s : List Char) : List Char :=
  if m.verbose then skipBlank false s else s

/-- What flags make of a value: those before the hyphen set it, and those after it unset it. -/
def flagged (flags : List Char) (flag : Char) (value : Bool) : Bool :=
  if flag ∈ flags then flag ∈ flags.takeWhile (· ≠ '-') else value

/-- Sets flags. Each one stands at most once, and one stands after a hyphen. -/
def withFlags? (m : Mode) (flags : List Char) : Option Mode :=
  if flags.all (fun c => c ∈ ['i', 'm', 's', 'U', 'u', 'R', 'x', '-'] && flags.count c = 1) ∧
      flags.getLast? ≠ some '-' then
    some ⟨flagged flags 'u' m.unicode, flagged flags 'x' m.verbose⟩
  else none

end Mode

/-! ## Lengths -/

theorem length_lt_of_dropWhile {p : Char → Bool} {s t : List Char} {c : Char}
    (h : s.dropWhile p = c :: t) : t.length < s.length := by
  have := (List.dropWhile_sublist p (l := s)).length_le
  rw [h, List.length_cons] at this
  exact this

theorem length_skipBlank_le (inComment : Bool) (s : List Char) :
    (skipBlank inComment s).length ≤ s.length := by
  fun_induction skipBlank inComment s <;> simp_all <;> omega

theorem Mode.length_skip_le (m : Mode) (s : List Char) : (m.skip s).length ≤ s.length := by
  unfold skip
  split
  · exact length_skipBlank_le false s
  · exact Nat.le_refl _

theorem Mode.length_lt_of_skip {m : Mode} {s t : List Char} {c : Char} (h : m.skip s = c :: t) :
    t.length < s.length := by
  have := m.length_skip_le s
  simp only [h, List.length_cons] at this
  omega

end DescriptiveLinks.Text.Pattern
