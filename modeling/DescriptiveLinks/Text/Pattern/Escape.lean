import DescriptiveLinks.Text.Digits
import DescriptiveLinks.Text.Pattern.Mode

/-! # Escapes in patterns

After a backslash stands a character for itself, or a letter for something that cannot be written
otherwise: a character, a set of characters, or an edge, which is a place between two of them.

* `Escape.read?` reads what stands after a backslash. -/

namespace DescriptiveLinks.Text.Pattern

/-- What an escape stands for. -/
inductive Escape where
  /-- A character. -/
  | char (c : Char)
  /-- A set of characters. -/
  | set
  /-- A place at the end of the text or of a word. -/
  | edge
deriving DecidableEq, Repr

/-- A number of digits, which may have white space and comments between them. -/
def digits? (m : Mode) : Nat → List Char → Option (List Char × List Char)
  | 0, s => some ([], s)
  | n + 1, s =>
    match m.skip s with
    | [] => none
    | c :: t => (digits? m n t).map fun (cs, rest) => (c :: cs, rest)

/-- The character of a code point. -/
def charOf? (n : Nat) : Option Char :=
  if n.isValidChar then some (Char.ofNat n) else none

namespace Escape

/-- An escape by code point, in two, four or eight hexadecimal digits. Two digits are a byte in a
pattern about bytes, and it has to be a character by itself. -/
def ofCode? (m : Mode) (count : Nat) (s : List Char) : Option (Escape × List Char) := do
  let (cs, rest) ← digits? m count s
  let c ← (hexValue? cs).bind charOf?
  if m.unicode ∨ count ≠ 2 ∨ c.toNat < 0x80 then return (char c, rest) else none

/-- An escape by the letter of a general category. -/
def ofCategory? (m : Mode) (s : List Char) : Option (Escape × List Char) :=
  match m.skip s with
  | [] => none
  | c :: rest =>
    if m.unicode ∧ c.toLower ∈ ['c', 'l', 'm', 'n', 'p', 's', 'z'] then some (set, rest) else none

/-- An escape that is one character. A pattern about bytes must not match a part of a character, so
it has no complements. Words are told apart by ASCII letters only, so a pattern about characters has
no edges of words. -/
def ofChar? (m : Mode) (c : Char) : Option Escape :=
  match c with
  | 'd' | 's' | 'w' => some set
  | 'D' | 'S' | 'W' => if m.unicode then some set else none
  | 'A' | 'z' => some edge
  | 'b' | 'B' | '<' | '>' => if m.unicode then none else some edge
  | 'a' => some (char '\x07')
  | 'f' => some (char '\x0c')
  | 'n' => some (char '\n')
  | 'r' => some (char '\r')
  | 't' => some (char '\t')
  | 'v' => some (char '\x0b')
  | c => if c.toNat < 0x80 ∧ ¬ c.isAlphanum then some (char c) else none

/-- Reads an escape, after its backslash. -/
def read? (m : Mode) : List Char → Option (Escape × List Char)
  | [] => none
  | 'x' :: s => ofCode? m 2 s
  | 'u' :: s => ofCode? m 4 s
  | 'U' :: s => ofCode? m 8 s
  | 'p' :: s | 'P' :: s => ofCategory? m s
  | c :: s => (ofChar? m c).map (·, s)

end Escape

/-! ## Lengths -/

theorem length_digits?_le {m : Mode} {n : Nat} {s cs rest : List Char}
    (h : digits? m n s = some (cs, rest)) : rest.length ≤ s.length := by
  induction n generalizing s cs rest with
  | zero =>
    cases h
    exact Nat.le_refl _
  | succ n ih =>
    rw [digits?] at h
    split at h
    · simp at h
    · next c t hs =>
      obtain ⟨⟨ds, r⟩, hd, h⟩ := Option.map_eq_some_iff.1 h
      have := Mode.length_lt_of_skip hs
      have := ih hd
      cases h
      omega

namespace Escape

theorem length_ofCode?_le {m : Mode} {n : Nat} {s rest : List Char} {e : Escape}
    (h : ofCode? m n s = some (e, rest)) : rest.length ≤ s.length := by
  obtain ⟨⟨cs, r⟩, hd, h⟩ := Option.bind_eq_some_iff.1 h
  obtain ⟨c, -, h⟩ := Option.bind_eq_some_iff.1 h
  split at h
  · cases h
    exact length_digits?_le hd
  · simp at h

theorem length_ofCategory?_le {m : Mode} {s rest : List Char} {e : Escape}
    (h : ofCategory? m s = some (e, rest)) : rest.length ≤ s.length := by
  unfold ofCategory? at h
  split at h
  · simp at h
  · next hs =>
    split at h
    · cases h
      exact Nat.le_of_lt (Mode.length_lt_of_skip hs)
    · simp at h

theorem length_lt_of_read? {m : Mode} {s rest : List Char} {e : Escape}
    (h : read? m s = some (e, rest)) : rest.length < s.length := by
  unfold read? at h
  split at h
  · simp at h
  · exact Nat.lt_succ_of_le (length_ofCode?_le h)
  · exact Nat.lt_succ_of_le (length_ofCode?_le h)
  · exact Nat.lt_succ_of_le (length_ofCode?_le h)
  · exact Nat.lt_succ_of_le (length_ofCategory?_le h)
  · exact Nat.lt_succ_of_le (length_ofCategory?_le h)
  · obtain ⟨e', -, h⟩ := Option.map_eq_some_iff.1 h
    cases h
    exact Nat.lt_succ_self _

end Escape

end DescriptiveLinks.Text.Pattern
