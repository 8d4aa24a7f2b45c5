import DescriptiveLinks.Text.Pattern.Set
import DescriptiveLinks.Unicode.Alphabetic

/-! # Patterns

A pattern is a regular expression. Nothing is matched with one here; what matters is which texts are
patterns.

Parts of a pattern stand one after the other, with bars between alternatives and parentheses around
groups. A part is a character, a dot, an edge, an escape, a set or a group, and a mark behind it
says how often it may occur. Flags in parentheses change the mode from there to the end of the
group.

* `Reading.run?` reads a text, and `IsPattern` says that a text is a pattern. -/

namespace DescriptiveLinks.Text

open Unicode

namespace Pattern

/-! ## Alternatives -/

/-- What has been read of a group, or of the pattern outside of all groups. -/
structure Alternatives where
  /-- The depths of the alternatives before this one. -/
  earlier : List Nat := []
  /-- The depths of the parts of this one, the last part first. -/
  parts : List Nat := []
  /-- Whether a mark may say how often the last part occurs. -/
  repeatable : Bool := false
deriving DecidableEq, Repr

namespace Alternatives

/-- Adds a part of a depth. -/
def add (a : Alternatives) (depth : Nat) : Alternatives :=
  { a with parts := depth :: a.parts, repeatable := true }

/-- Adds flags, which are a part that cannot be repeated. -/
def addFlags (a : Alternatives) : Alternatives :=
  { a with parts := 0 :: a.parts, repeatable := false }

/-- Repeats the last part, which becomes a part of what is repeated. -/
def repeatLast? (a : Alternatives) : Option Alternatives :=
  match a.parts with
  | depth :: parts => if a.repeatable then some { a with parts := (depth + 1) :: parts } else none
  | [] => none

/-- Starts the next alternative. -/
def next (a : Alternatives) : Alternatives :=
  { earlier := joinedDepth a.parts :: a.earlier }

/-- How deep the parts are nested. -/
def depth (a : Alternatives) : Nat :=
  joinedDepth a.next.earlier

end Alternatives

/-! ## Groups -/

/-- What has been read of a pattern. -/
structure Reading where
  /-- How to read on. -/
  mode : Mode := {}
  /-- The names of groups. -/
  names : List (List Char) := []
  /-- What has been read of the innermost group that is open. -/
  inner : Alternatives := {}
  /-- What has been read around it, from the inside out, each with its mode. -/
  outer : List (Mode × Alternatives) := []
deriving DecidableEq, Repr

/-- Whether a text is a name of a group: a letter or an underscore, and then also numbers, dots and
square brackets. -/
def isGroupName : List Char → Bool
  | [] => false
  | c :: s =>
    (c = '_' || isAlphabetic c) && s.all fun c => c ∈ ['_', '.', '[', ']'] || isAlphanumeric c

/-- The text from the name of a group on, given the text behind its parenthesis, if it has a name. -/
def fromName? : List Char → Option (List Char)
  | '?' :: 'P' :: '<' :: s | '?' :: '<' :: s => some s
  | _ => none

namespace Reading

/-- Adds a part of a depth. -/
def add (r : Reading) (depth : Nat) : Reading :=
  { r with inner := r.inner.add depth }

/-- Opens a group, in which a mode holds. -/
def openGroup (r : Reading) (mode : Mode) : Reading :=
  { r with mode, inner := {}, outer := (r.mode, r.inner) :: r.outer }

/-- Closes the innermost group. -/
def closeGroup? (r : Reading) : Option Reading :=
  match r.outer with
  | [] => none
  | (mode, a) :: outer => some { r with mode, inner := a.add (r.inner.depth + 1), outer }

/-- Opens a group with a name, which no other group has. -/
def openNamed? (r : Reading) (s : List Char) : Option (Reading × List Char) :=
  let name := s.takeWhile (· ≠ '>')
  match s.dropWhile (· ≠ '>') with
  | [] => none
  | _ :: rest =>
    if isGroupName name ∧ name ∉ r.names then
      some ({ r with names := name :: r.names }.openGroup r.mode, rest)
    else none

/-- Reads on after flags that give a mode. After a colon it holds in the group that opens there, and
otherwise up to the end of the group that the flags stand in. Only before a colon may there be no
flags. -/
def afterFlags? (r : Reading) (mode : Mode) (flags : List Char) :
    List Char → Option (Reading × List Char)
  | ':' :: rest => some (r.openGroup mode, rest)
  | ')' :: rest =>
    if flags.isEmpty then none else some ({ r with mode, inner := r.inner.addFlags }, rest)
  | _ => none

/-- Whether a character may be one of the flags, which a colon or a parenthesis ends. -/
def isInFlags (c : Char) : Bool :=
  c ≠ ':' && c ≠ ')'

/-- Reads flags. -/
def flags? (r : Reading) (s : List Char) : Option (Reading × List Char) :=
  (r.mode.withFlags? (s.takeWhile isInFlags)).bind fun mode =>
    r.afterFlags? mode (s.takeWhile isInFlags) (s.dropWhile isInFlags)

/-- Reads on after an opening parenthesis. -/
def afterParenthesis? (r : Reading) (s : List Char) : Option (Reading × List Char) :=
  let s := r.mode.skip s
  match fromName? s with
  | some s => r.openNamed? s
  | none =>
    match s with
    | '?' :: s => r.flags? s
    | s => some (r.openGroup r.mode, s)

/-- Reads on after a mark. A question mark behind it belongs to it. -/
def afterMark? (r : Reading) (s : List Char) : Option (Reading × List Char) :=
  r.inner.repeatLast?.map fun inner => ({ r with inner }, if s.head? = some '?' then s.tail else s)

/-- Reads a part that starts with a character, or a mark. Braces are not among the marks, since a
text that is read here has no closing ones. -/
def next? (r : Reading) (c : Char) (s : List Char) : Option (Reading × List Char) :=
  match c with
  | '(' => r.afterParenthesis? s
  | ')' => r.closeGroup?.map fun r => (r, s)
  | '|' => some ({ r with inner := r.inner.next }, s)
  | '?' | '*' | '+' => r.afterMark? s
  | '\x7b' => none
  | '[' => (readSet? r.mode s).map fun (depth, rest) => (r.add depth, rest)
  | '\\' => (Escape.read? r.mode s).map fun (_, rest) => (r.add 0, rest)
  | '.' => if r.mode.unicode then some (r.add 0, s) else none
  | _ => some (r.add 0, s)

theorem length_openNamed?_le {r r' : Reading} {s rest : List Char}
    (h : r.openNamed? s = some (r', rest)) : rest.length ≤ s.length := by
  simp only [openNamed?] at h
  split at h
  · simp at h
  · next hs =>
    split at h
    · cases h
      exact Nat.le_of_lt (length_lt_of_dropWhile hs)
    · simp at h

theorem length_afterFlags?_lt {r r' : Reading} {mode : Mode} {flags s rest : List Char}
    (h : r.afterFlags? mode flags s = some (r', rest)) : rest.length < s.length := by
  unfold afterFlags? at h
  split at h
  · cases h
    exact Nat.lt_succ_self _
  · split at h
    · simp at h
    · cases h
      exact Nat.lt_succ_self _
  · simp at h

theorem length_flags?_le {r r' : Reading} {s rest : List Char}
    (h : r.flags? s = some (r', rest)) : rest.length ≤ s.length := by
  obtain ⟨mode, -, h⟩ := Option.bind_eq_some_iff.1 h
  have := length_afterFlags?_lt h
  have := (List.dropWhile_sublist isInFlags (l := s)).length_le
  omega

theorem length_fromName?_le {s rest : List Char} (h : fromName? s = some rest) :
    rest.length ≤ s.length := by
  unfold fromName? at h
  split at h
  · cases h
    simp only [List.length_cons]
    omega
  · cases h
    simp only [List.length_cons]
    omega
  · simp at h

theorem length_afterParenthesis?_le {r r' : Reading} {s rest : List Char}
    (h : r.afterParenthesis? s = some (r', rest)) : rest.length ≤ s.length := by
  have := r.mode.length_skip_le s
  simp only [afterParenthesis?] at h
  split at h
  · next hs =>
    have := length_fromName?_le hs
    have := length_openNamed?_le h
    omega
  · split at h
    · next hs =>
      have := length_flags?_le h
      simp only [hs, List.length_cons] at *
      omega
    · cases h
      assumption

theorem length_afterMark?_le {r r' : Reading} {s rest : List Char}
    (h : r.afterMark? s = some (r', rest)) : rest.length ≤ s.length := by
  obtain ⟨_, -, h⟩ := Option.map_eq_some_iff.1 h
  cases h
  split <;> simp

theorem length_next?_le {r r' : Reading} {c : Char} {s rest : List Char}
    (h : r.next? c s = some (r', rest)) : rest.length ≤ s.length := by
  unfold next? at h
  split at h
  · exact length_afterParenthesis?_le h
  · obtain ⟨_, -, h⟩ := Option.map_eq_some_iff.1 h
    cases h
    exact Nat.le_refl _
  · cases h
    exact Nat.le_refl _
  · exact length_afterMark?_le h
  · exact length_afterMark?_le h
  · exact length_afterMark?_le h
  · simp at h
  · obtain ⟨⟨_, _⟩, hs, h⟩ := Option.map_eq_some_iff.1 h
    cases h
    exact Nat.le_of_lt (length_readSet?_lt hs)
  · obtain ⟨⟨_, _⟩, hs, h⟩ := Option.map_eq_some_iff.1 h
    cases h
    exact Nat.le_of_lt (Escape.length_lt_of_read? hs)
  · split at h
    · cases h
      exact Nat.le_refl _
    · simp at h
  · cases h
    exact Nat.le_refl _

/-- Reads on to the end of a text. -/
def run? (r : Reading) (s : List Char) : Option Reading :=
  match _hs : r.mode.skip s with
  | [] => some r
  | c :: t =>
    match _ht : r.next? c t with
    | none => none
    | some (r, rest) => r.run? rest
termination_by s.length
decreasing_by
  have := Mode.length_lt_of_skip _hs
  have := length_next?_le _ht
  omega

end Reading

/-- How deep the parts of a pattern may be nested. -/
def maxDepth : Nat :=
  250

end Pattern

/-- Whether a text, which has no closing braces, is a pattern: all groups are closed, and the parts
are not nested too deep. -/
def IsPattern (s : List Char) : Prop :=
  ∃ r ∈ Pattern.Reading.run? {} s, r.outer = [] ∧ r.inner.depth ≤ Pattern.maxDepth

instance (s : List Char) : Decidable (IsPattern s) :=
  decidable_of_iff (((Pattern.Reading.run? {} s).any fun r =>
      r.outer = [] ∧ r.inner.depth ≤ Pattern.maxDepth) = true) <| by
    simp [IsPattern, Option.any_eq_true]

end DescriptiveLinks.Text
