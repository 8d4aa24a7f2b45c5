import Mathlib.Data.List.DropRight
import DescriptiveLinks.Text.Pieces

/-! # Lines

The lines of a text are its pieces between line feeds. A part at the beginning of a text ends on the
line whose number is that of the line feeds in the part.

* `Text.lineLength` is the number of characters of a line.
* `Text.lineLength_append` counts them from what is before a place in the text and what is after.
* `Text.lines` is the list of the lines that line feeds end, and `Text.lines_flatMap` says when it
  gives back the texts that were put on a line each. -/

namespace DescriptiveLinks.Text

/-- What a text has before its first line feed. -/
def firstLine (cs : List Char) : List Char :=
  cs.takeWhile (· ≠ '\n')

/-- What a text has after its last line feed. -/
def lastLine (cs : List Char) : List Char :=
  cs.rtakeWhile (· ≠ '\n')

/-- The number of characters of a line of a text, where lines are counted from one. -/
def lineLength (cs : List Char) (line : Nat) : Nat :=
  ((pieces '\n' cs)[line - 1]?.map List.length).getD 0

section Separator

variable {α : Type} [DecidableEq α] {sep : α} {xs : List α}

theorem forall_ne_of_not_mem (h : sep ∉ xs) : ∀ x ∈ xs, decide (x ≠ sep) = true := by
  intro x hx
  rw [decide_eq_true_eq]
  rintro rfl
  exact h hx

/-- What follows the last separator is lengthened by a part without separators. -/
theorem rtakeWhile_append_of_not_mem (ys : List α) (h : sep ∉ xs) :
    (ys ++ xs).rtakeWhile (· ≠ sep) = ys.rtakeWhile (· ≠ sep) ++ xs := by
  have hxs := forall_ne_of_not_mem fun hmem => h (List.mem_reverse.mp hmem)
  rw [List.rtakeWhile, List.rtakeWhile, List.reverse_append, List.takeWhile_append_of_pos hxs,
    List.reverse_append, List.reverse_reverse]

end Separator

theorem firstLine_append_of_not_mem {cs : List Char} (h : '\n' ∉ cs) (ds : List Char) :
    firstLine (cs ++ ds) = cs ++ firstLine ds :=
  List.takeWhile_append_of_pos (forall_ne_of_not_mem h)

theorem not_mem_lastLine (cs : List Char) : '\n' ∉ lastLine cs := by
  intro h
  simpa using List.mem_rtakeWhile_imp h

/-- A text is its last line, or there is a line feed before that line. -/
theorem eq_lastLine_or_exists (cs : List Char) :
    cs = lastLine cs ∨ ∃ ds, cs = ds ++ '\n' :: lastLine cs := by
  induction cs using List.reverseRecOn with
  | nil => exact .inl rfl
  | append_singleton cs c ih =>
    by_cases h : c = '\n'
    · subst h
      exact .inr ⟨cs, by simp [lastLine]⟩
    · have hline : lastLine (cs ++ [c]) = lastLine cs ++ [c] :=
        List.rtakeWhile_concat_pos _ _ _ (by simpa)
      rw [hline]
      rcases ih with ih | ⟨ds, ih⟩
      · exact .inl (congrArg (· ++ [c]) ih)
      · exact .inr ⟨ds, by rw [← List.cons_append, ← List.append_assoc, ← ih]⟩

theorem lastLine_append_of_not_mem (cs : List Char) {ds : List Char} (h : '\n' ∉ ds) :
    lastLine (cs ++ ds) = lastLine cs ++ ds :=
  rtakeWhile_append_of_not_mem cs h

/-- **The line on which a part of a text ends** consists of the end of that part and of what
follows it. -/
theorem getElem?_pieces_count (before after : List Char) :
    (pieces '\n' (before ++ after))[before.count '\n']?
      = some (lastLine before ++ firstLine after) := by
  have hfirst : (pieces '\n' (lastLine before ++ after)).head?
      = some (lastLine before ++ firstLine after) := by
    rw [← firstLine_append_of_not_mem (not_mem_lastLine before)]
    exact head?_pieces _ _
  rw [List.head?_eq_getElem?] at hfirst
  rcases eq_lastLine_or_exists before with h | ⟨cs, h⟩
  · have hcount : before.count '\n' = 0 := by
      rw [h]
      exact List.count_eq_zero.mpr (not_mem_lastLine before)
    rw [hcount, ← hfirst, ← h]
  · have hcount : before.count '\n' = (pieces '\n' cs).length := by
      rw [length_pieces, h, List.count_append, List.count_cons_self,
        List.count_eq_zero.mpr (not_mem_lastLine before)]
    have hpieces : pieces '\n' (before ++ after)
        = pieces '\n' cs ++ pieces '\n' (lastLine before ++ after) := by
      rw [← pieces_append_cons, ← List.cons_append, ← List.append_assoc, ← h]
    rw [hpieces, hcount, List.getElem?_append_right (Nat.le_refl _), Nat.sub_self, hfirst]

theorem lineLength_append (before after : List Char) :
    lineLength (before ++ after) (before.count '\n' + 1)
      = (lastLine before).length + (firstLine after).length := by
  rw [lineLength, Nat.add_sub_cancel, getElem?_pieces_count]
  simp

/-- A part without line feeds lies on one line, between what is before it there and what is after
it. -/
theorem lineLength_append_of_not_mem (before : List Char) {part : List Char} (h : '\n' ∉ part)
    (after : List Char) :
    lineLength (before ++ part ++ after) (before.count '\n' + 1)
      = (lastLine before).length + part.length + (firstLine after).length := by
  rw [List.append_assoc, lineLength_append, firstLine_append_of_not_mem h, List.length_append,
    Nat.add_assoc]

/-! ## Ended lines -/

/-- The **lines** of a text that line feeds end. What follows the last line feed is none of them. -/
def lines (cs : List Char) : List (List Char) :=
  (pieces '\n' cs).dropLast

theorem length_lines (cs : List Char) : (lines cs).length = cs.count '\n' := by
  rw [lines, List.length_dropLast, length_pieces, Nat.add_sub_cancel]

theorem pieces_of_not_mem {sep : Char} {cs : List Char} (h : sep ∉ cs) : pieces sep cs = [cs] := by
  have hlength : (pieces sep cs).length = 1 := by
    rw [length_pieces, List.count_eq_zero.mpr h]
  have hhead : (pieces sep cs).head? = some cs := by
    rw [head?_pieces, List.takeWhile_eq_self_iff.mpr (forall_ne_of_not_mem h)]
  obtain ⟨piece, hpiece⟩ := List.length_eq_one_iff.mp hlength
  rw [hpiece, List.head?_cons, Option.some_inj] at hhead
  rw [hpiece, hhead]

theorem lines_append_cons {line : List Char} (h : '\n' ∉ line) (rest : List Char) :
    lines (line ++ '\n' :: rest) = line :: lines rest := by
  rw [lines, pieces_append_cons, pieces_of_not_mem h, List.singleton_append,
    List.dropLast_cons_of_ne_nil (pieces_ne_nil _ _), lines]

/-- A text on a line of its own has one line feed besides those in it. -/
theorem count_flatMap_lineFeed {α : Type} {f g : α → List Char} {xs : List α}
    (h : ∀ x ∈ xs, (f x).count '\n' = (g x).count '\n') :
    (xs.flatMap fun x => f x ++ ['\n']).count '\n' = xs.length + (xs.flatMap g).count '\n' := by
  induction xs with
  | nil => rfl
  | cons x xs ih =>
    obtain ⟨hx, hxs⟩ := List.forall_mem_cons.mp h
    simp only [List.flatMap_cons, List.count_append, hx, ih hxs, List.length_cons,
      List.count_singleton_self]
    omega

/-- Texts that are put on a line each are the lines, unless one of them has a line feed itself. -/
theorem lines_flatMap {texts : List (List Char)} (h : ∀ text ∈ texts, '\n' ∉ text) :
    lines (texts.flatMap (· ++ ['\n'])) = texts := by
  induction texts with
  | nil => rfl
  | cons text texts ih =>
    obtain ⟨htext, htexts⟩ := List.forall_mem_cons.mp h
    rw [List.flatMap_cons, List.append_assoc, List.singleton_append, lines_append_cons htext,
      ih htexts]

end DescriptiveLinks.Text
