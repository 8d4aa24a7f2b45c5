import Mathlib.Data.Prod.Lex
import Mathlib.Data.Set.Function
import DescriptiveLinks.Proofs.Text.Position

/-! # Lines and columns as coordinates

The places between the characters of a text are known by their offsets and by their positions alike.
From one place to a later one the line goes up, or it stays and the column goes up; and walking along
the text to a line and then along that line to a column leads to the one place with this position.

* `Position.lex` is the order of positions, and `LineIndex.lex_position_le_iff` says that places are
  in this order as they are in the text.
* `Text.offsetAt?` walks to a position, and `LineIndex.offsetAt?_eq_some_iff` says that it undoes
  `LineIndex.position`.
* `LineIndex.strictMonoOn_position` puts order and walk together. -/

namespace DescriptiveLinks

/-- A position in the order of reading: by lines, and within one line by columns. -/
def Position.lex (p : Position) : ℕ ×ₗ ℕ :=
  toLex (p.line, p.column)

theorem Position.lex_lt_iff {p q : Position} :
    p.lex < q.lex ↔ p.line < q.line ∨ p.line = q.line ∧ p.column < q.column :=
  Prod.Lex.toLex_lt_toLex

namespace Text

/-! ## The last line -/

theorem lastLine_eq_self {cs : List Char} (h : '\n' ∉ cs) : lastLine cs = cs :=
  lastLine_append_of_not_mem [] h

/-- A character before a line feed, or a line feed itself, does not change the last line. -/
theorem lastLine_cons_of_mem {c : Char} {cs : List Char} (h : '\n' ∈ c :: cs) :
    lastLine (c :: cs) = lastLine cs := by
  have hfeed : ∀ ds : List Char, lastLine (ds ++ ['\n']) = [] := fun ds =>
    List.rtakeWhile_concat_neg _ _ _ (by simp)
  have hline := not_mem_lastLine cs
  rcases eq_lastLine_or_exists cs with hcs | ⟨ds, hcs⟩
  · -- Only `c` can be the line feed, so that all of `cs` is the last line.
    rw [← hcs] at hline
    obtain rfl : '\n' = c := (List.mem_cons.mp h).resolve_right hline
    rw [lastLine_eq_self hline, ← List.singleton_append, lastLine_append_of_not_mem _ hline,
      ← List.nil_append ['\n'], hfeed, List.nil_append]
  · have hcons : c :: cs = ((c :: ds) ++ ['\n']) ++ lastLine cs := by
      rw [List.append_assoc, List.singleton_append, List.cons_append, ← hcs]
    rw [hcons, lastLine_append_of_not_mem _ hline, hfeed, List.nil_append]

/-! ## Walking to a position -/

/-- The number of bytes of a walk along a text, over so many line feeds and then over so many
characters of the line that follows; `none` if the text has not so many lines, or the line not so
many characters. -/
def walk : Nat → Nat → List Char → Option Nat
  | 0, columns, cs =>
    if columns ≤ (firstLine cs).length then some (byteLength ((firstLine cs).take columns)) else none
  | _ + 1, _, [] => none
  | lines + 1, columns, c :: cs =>
    (walk (if c = '\n' then lines else lines + 1) columns cs).map (c.utf8Size + ·)

/-- The offset of a position in a text: the walk goes over one line less than its line, and one
character less than its column. -/
def offsetAt? (source : List Char) : Position → Option Nat
  | ⟨line + 1, column + 1⟩ => walk line column source
  | _ => none

/-- A walk along a line ends before the end of the line, or there. -/
theorem walk_zero_eq_some_iff {columns offset : Nat} {cs : List Char} :
    walk 0 columns cs = some offset ↔ ∃ before after, cs = before ++ after ∧
      byteLength before = offset ∧ before.count '\n' = 0 ∧ (lastLine before).length = columns := by
  rw [walk]
  constructor
  · intro h
    split at h
    · next hle =>
      obtain ⟨rest, hrest⟩ := List.takeWhile_prefix (· ≠ '\n') (l := cs)
      have hfeed : '\n' ∉ (firstLine cs).take columns := fun hmem => by
        simpa using List.mem_takeWhile_imp (List.mem_of_mem_take hmem)
      refine ⟨(firstLine cs).take columns, (firstLine cs).drop columns ++ rest, ?_,
        Option.some_inj.mp h, List.count_eq_zero.mpr hfeed, ?_⟩
      · rw [← List.append_assoc, List.take_append_drop]
        exact hrest.symm
      · rw [lastLine_eq_self hfeed, List.length_take_of_le hle]
    · cases h
  · rintro ⟨before, after, rfl, rfl, hcount, rfl⟩
    have hfeed := List.count_eq_zero.mp hcount
    rw [lastLine_eq_self hfeed, firstLine_append_of_not_mem hfeed, if_pos (by simp),
      List.take_left]

theorem count_cons_eq_succ_iff {c : Char} {cs : List Char} {lines : Nat} :
    (c :: cs).count '\n' = lines + 1 ↔ cs.count '\n' = if c = '\n' then lines else lines + 1 := by
  by_cases h : c = '\n'
  · simp [h]
  · simp [h]

/-- **Where a walk ends**: behind a part of the text with as many line feeds as the walk goes over,
and with as many characters after the last of them. -/
theorem walk_eq_some_iff {lines columns offset : Nat} {cs : List Char} :
    walk lines columns cs = some offset ↔ ∃ before after, cs = before ++ after ∧
      byteLength before = offset ∧ before.count '\n' = lines ∧
      (lastLine before).length = columns := by
  induction cs generalizing lines offset with
  | nil =>
    cases lines with
    | zero => exact walk_zero_eq_some_iff
    | succ lines =>
      rw [walk]
      refine iff_of_false nofun ?_
      rintro ⟨before, after, heq, -, hcount, -⟩
      obtain ⟨rfl, -⟩ := List.append_eq_nil_iff.mp heq.symm
      cases hcount
  | cons c cs ih =>
    cases lines with
    | zero => exact walk_zero_eq_some_iff
    | succ lines =>
      -- The part before the end of the walk has a line feed, so it begins with `c`.
      have hlast {before : List Char} (hcount : (c :: before).count '\n' = lines + 1) :
          lastLine (c :: before) = lastLine before :=
        lastLine_cons_of_mem (List.count_pos_iff.mp (by omega))
      simp only [walk, Option.map_eq_some_iff, ih]
      constructor
      · rintro ⟨_, ⟨before, after, rfl, rfl, hcount, hcolumns⟩, rfl⟩
        have hcount := count_cons_eq_succ_iff.mpr hcount
        exact ⟨c :: before, after, rfl, rfl, hcount, by rw [hlast hcount, hcolumns]⟩
      · rintro ⟨before, after, heq, rfl, hcount, hcolumns⟩
        cases before with
        | nil => cases hcount
        | cons d before =>
          obtain ⟨rfl, rfl⟩ := List.cons_eq_cons.mp heq
          rw [hlast hcount] at hcolumns
          exact ⟨byteLength before, ⟨before, after, rfl, rfl, count_cons_eq_succ_iff.mp hcount,
            hcolumns⟩, rfl⟩

end Text

namespace LineIndex

open Text

/-- Of two places between characters the one with the smaller offset has the earlier position. -/
theorem lex_position_le_iff {source : List Char} {o o' : Nat} (ho : IsBoundary source o)
    (ho' : IsBoundary source o') :
    ((ofSource source).position o).lex ≤ ((ofSource source).position o').lex ↔ o ≤ o' := by
  constructor
  · intro hle
    by_contra hlt
    exact hle.not_gt (Position.lex_lt_iff.mpr (position_lt ho' ho (Nat.not_le.mp hlt)))
  · intro hle
    obtain rfl | hlt := Nat.eq_or_lt_of_le hle
    · exact le_rfl
    · exact (Position.lex_lt_iff.mpr (position_lt ho ho' hlt)).le

/-- **Walking to a position** leads to the place that has this position, if there is one. -/
theorem offsetAt?_eq_some_iff {source : List Char} {p : Position} {offset : Nat} :
    offsetAt? source p = some offset ↔
      IsBoundary source offset ∧ (ofSource source).position offset = p := by
  constructor
  · intro h
    obtain ⟨line, column⟩ := p
    cases line with
    | zero => cases h
    | succ line =>
      cases column with
      | zero => cases h
      | succ column =>
        obtain ⟨before, after, rfl, rfl, hcount, hcolumns⟩ := walk_eq_some_iff.mp h
        refine ⟨⟨before, after, rfl, rfl⟩, ?_⟩
        rw [position_eq, hcount, hcolumns]
  · rintro ⟨⟨before, after, rfl, rfl⟩, rfl⟩
    rw [position_eq]
    exact walk_eq_some_iff.mpr ⟨before, after, rfl, rfl, rfl, rfl⟩

/-- **Positions are coordinates** of the places between the characters of a text: they are in the
same order as the offsets, no two places share one, and walking along the text to a position leads
back to the place that it was taken of. -/
theorem strictMonoOn_position (source : List Char) :
    StrictMonoOn (fun o => ((ofSource source).position o).lex) {o | IsBoundary source o} ∧
    Set.InjOn (ofSource source).position {o | IsBoundary source o} ∧
    ∀ o p, offsetAt? source p = some o ↔
      IsBoundary source o ∧ (ofSource source).position o = p := by
  refine ⟨?_, ?_, fun o p => offsetAt?_eq_some_iff⟩
  · intro o ho o' ho' hlt
    exact Position.lex_lt_iff.mpr (position_lt ho ho' hlt)
  · intro o ho o' ho' heq
    exact eq_of_position_eq ho ho' heq

/-- The end of a line with a character of two bytes, and the third place of the next line. -/
theorem strictMonoOn_position_of_two_lines :
    ((ofSource "é\nab".toList).position 2).lex < ((ofSource "é\nab".toList).position 5).lex ∧
    (ofSource "é\nab".toList).position 5 = ⟨2, 3⟩ ∧
    offsetAt? "é\nab".toList ⟨2, 3⟩ = some 5 := by
  obtain ⟨hmono, -, hwalk⟩ := strictMonoOn_position "é\nab".toList
  have hline : IsBoundary "é\nab".toList 2 := by decide
  have hend : IsBoundary "é\nab".toList 5 := by decide
  have hposition : (ofSource "é\nab".toList).position 5 = ⟨2, 3⟩ := by decide +kernel
  exact ⟨hmono hline hend (by decide), hposition, (hwalk 5 ⟨2, 3⟩).mpr ⟨hend, hposition⟩⟩

end LineIndex

end DescriptiveLinks
