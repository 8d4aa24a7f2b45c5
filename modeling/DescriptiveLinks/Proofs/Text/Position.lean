import DescriptiveLinks.Proofs.Text.Lines
import DescriptiveLinks.Proofs.Text.Slice
import DescriptiveLinks.Text.Position

/-! # Positions of offsets

Line and column of an offset are found by bisection in a table of line starts. They are what
counting from the beginning of the text gives, so that an offset between characters can be told from
its position.

* `LineIndex.lineAt_eq` says what bisection finds, and `LineIndex.position_eq` which line and column
  come out.
* `LineIndex.position_lt` says that positions keep the order of offsets, and
  `LineIndex.eq_of_position_eq` that they keep offsets apart. -/

namespace DescriptiveLinks

/-! ## Line starts -/

theorem lineStartsFrom_append (offset : Nat) (cs ds : List Char) :
    lineStartsFrom offset (cs ++ ds)
      = lineStartsFrom offset cs ++ lineStartsFrom (offset + Text.byteLength cs) ds := by
  induction cs generalizing offset with
  | nil => simp [lineStartsFrom]
  | cons c cs ih =>
    rw [List.cons_append, lineStartsFrom, lineStartsFrom, ih, Text.byteLength_cons,
      ← Nat.add_assoc]
    split
    · rw [List.cons_append]
    · rfl

@[simp] theorem length_lineStartsFrom (offset : Nat) (cs : List Char) :
    (lineStartsFrom offset cs).length = cs.count '\n' := by
  induction cs generalizing offset with
  | nil => rfl
  | cons c cs ih =>
    rw [lineStartsFrom]
    by_cases h : c = '\n'
    · rw [if_pos h, List.length_cons, ih, h, List.count_cons_self]
    · rw [if_neg h, ih, List.count_cons_of_ne h]

/-- A line starts after a character of the text and not after its end. -/
theorem bounds_of_mem_lineStartsFrom {offset start : Nat} {cs : List Char}
    (h : start ∈ lineStartsFrom offset cs) :
    (∀ c ∈ cs.head?, offset + c.utf8Size ≤ start) ∧ start ≤ offset + Text.byteLength cs := by
  induction cs generalizing offset with
  | nil => cases h
  | cons c cs ih =>
    have hbounds : offset + c.utf8Size ≤ start ∧
        start ≤ offset + c.utf8Size + Text.byteLength cs := by
      have hrest (h : start ∈ lineStartsFrom (offset + c.utf8Size) cs) :
          offset + c.utf8Size ≤ start := by
        cases cs with
        | nil => cases h
        | cons d ds => exact Nat.le_trans (Nat.le_add_right _ _) ((ih h).1 d rfl)
      rw [lineStartsFrom] at h
      split at h
      · rcases List.mem_cons.mp h with rfl | h
        · exact ⟨Nat.le_refl _, Nat.le_add_right _ _⟩
        · exact ⟨hrest h, (ih h).2⟩
      · exact ⟨hrest h, (ih h).2⟩
    rw [Text.byteLength_cons, ← Nat.add_assoc]
    refine ⟨fun d hd => ?_, hbounds.2⟩
    cases hd
    exact hbounds.1

theorem lt_of_mem_lineStartsFrom {offset start : Nat} {cs : List Char}
    (h : start ∈ lineStartsFrom offset cs) : offset < start := by
  cases cs with
  | nil => cases h
  | cons c cs =>
    have := (bounds_of_mem_lineStartsFrom h).1 c rfl
    have := c.utf8Size_pos
    omega

theorem pairwise_lineStartsFrom (offset : Nat) (cs : List Char) :
    (lineStartsFrom offset cs).Pairwise (· < ·) := by
  induction cs generalizing offset with
  | nil => exact .nil
  | cons c cs ih =>
    rw [lineStartsFrom]
    split
    · exact .cons (fun _ h => lt_of_mem_lineStartsFrom h) (ih _)
    · exact ih _

/-- **Line starts go up.** -/
theorem pairwise_lineStarts (cs : List Char) : (lineStarts cs).Pairwise (· < ·) :=
  .cons (fun _ h => lt_of_mem_lineStartsFrom h) (pairwise_lineStartsFrom 0 cs)

theorem length_lineStarts (cs : List Char) : (lineStarts cs).length = cs.count '\n' + 1 := by
  rw [lineStarts, List.length_cons, length_lineStartsFrom]

theorem lineStarts_append (before after : List Char) :
    lineStarts (before ++ after)
      = lineStarts before ++ lineStartsFrom (Text.byteLength before) after := by
  rw [lineStarts, lineStartsFrom_append, Nat.zero_add, lineStarts, List.cons_append]

/-- The last line of a text starts where the last of its line starts says. -/
theorem getElem?_lineStarts_count (before : List Char) :
    ∃ whole, before = whole ++ Text.lastLine before ∧
      (lineStarts before)[before.count '\n']? = some (Text.byteLength whole) := by
  rcases Text.eq_lastLine_or_exists before with h | ⟨cs, h⟩
  · have hmem := Text.not_mem_lastLine before
    rw [← h] at hmem
    refine ⟨[], h, ?_⟩
    rw [List.count_eq_zero.mpr hmem]
    rfl
  · have hmem := Text.not_mem_lastLine before
    generalize Text.lastLine before = line at h hmem
    subst h
    refine ⟨cs ++ ['\n'], by simp, ?_⟩
    have hcount : (cs ++ '\n' :: line).count '\n' = (lineStarts cs).length := by
      rw [length_lineStarts, List.count_append, List.count_cons_self, List.count_eq_zero.mpr hmem]
    rw [hcount, lineStarts_append, List.getElem?_append_right (Nat.le_refl _), Nat.sub_self,
      lineStartsFrom, if_pos rfl, Text.byteLength_append]
    simp

namespace LineIndex

/-! ## Bisection -/

variable {m : LineIndex}

/-- **Bisection** finds the last of the lines that start at or before the offset: the line itself if
it starts there, and otherwise the index behind it. -/
theorem search_cases {offset low high last : Nat} (hlow : low ≤ last + 1) (hhigh : last < high)
    (hbefore : ∀ i < last, m.lineStart i < offset) (hlast : m.lineStart last ≤ offset)
    (hafter : ∀ i, last < i → i < high → offset < m.lineStart i) :
    m.search offset low high = .hit last ∨ m.search offset low high = .gap (last + 1) := by
  fun_induction m.search offset low high with
  | case1 low high hlt mid heq =>
    -- Neither a line before the last nor one after it starts at the offset.
    have hmid := compare_eq_iff_eq.mp heq
    obtain hless | rfl | hgreater := Nat.lt_trichotomy mid last
    · exact absurd hmid (Nat.ne_of_lt (hbefore mid hless))
    · exact .inl rfl
    · exact absurd hmid (Nat.ne_of_gt (hafter mid hgreater (by omega)))
  | case2 low high hlt mid hless ih =>
    have hmid := compare_lt_iff_lt.mp hless
    refine ih ?_ hhigh hafter
    by_contra hgreater
    exact absurd hmid (Nat.not_lt.mpr (hafter mid (by omega) (by omega)).le)
  | case3 low high hlt mid hgreater ih =>
    have hmid := compare_gt_iff_gt.mp hgreater
    have hlast' : last < mid := by
      by_contra hless
      obtain hless | rfl := Nat.lt_or_eq_of_le (Nat.not_lt.mp hless)
      · exact absurd hmid (Nat.not_lt.mpr (hbefore mid hless).le)
      · exact absurd hmid (Nat.not_lt.mpr hlast)
    exact ih hlow hlast' fun i hi hi' => hafter i hi (by omega)
  | case4 low high hge =>
    rw [show low = last + 1 by omega]
    exact .inr rfl

theorem lineStart_ofSource (source : List Char) (i : Nat) :
    (ofSource source).lineStart i = (lineStarts source)[i]?.getD 0 := by
  rw [lineStart, ofSource, List.getElem?_toArray]

theorem size_starts_ofSource (source : List Char) :
    (ofSource source).starts.size = source.count '\n' + 1 := by
  rw [(ofSource source).starts_eq, List.size_toArray, source_ofSource, length_lineStarts]

theorem lineStart_lt {source : List Char} {i j : Nat} (hij : i < j)
    (hj : j < (ofSource source).starts.size) :
    (ofSource source).lineStart i < (ofSource source).lineStart j := by
  have hj' : j < (lineStarts source).length := hj
  rw [lineStart_ofSource, lineStart_ofSource, List.getElem?_eq_getElem (hij.trans hj'),
    List.getElem?_eq_getElem hj', Option.getD_some, Option.getD_some]
  exact List.pairwise_iff_getElem.mp (pairwise_lineStarts source) i j _ hj' hij

/-- The lines that start at or before an offset are told by the line feeds before it. -/
theorem lineStart_le_iff {before after : List Char} {offset i : Nat}
    (hle : Text.byteLength before ≤ offset)
    (hlt : ∀ c ∈ after.head?, offset < Text.byteLength before + c.utf8Size)
    (hi : i < (ofSource (before ++ after)).starts.size) :
    (ofSource (before ++ after)).lineStart i ≤ offset ↔ i ≤ before.count '\n' := by
  have hlength := length_lineStarts before
  rw [size_starts_ofSource, List.count_append] at hi
  rw [lineStart_ofSource, lineStarts_append]
  by_cases hfirst : i < (lineStarts before).length
  · -- The line starts after a line feed before the offset, or at the beginning.
    rw [List.getElem?_append_left hfirst, List.getElem?_eq_getElem hfirst, Option.getD_some]
    refine iff_of_true ?_ (by omega)
    rcases List.mem_cons.mp (List.getElem_mem hfirst) with h | h
    · rw [h]
      exact Nat.zero_le _
    · have := (bounds_of_mem_lineStartsFrom h).2
      omega
  · -- The line starts after a line feed that is not before the offset.
    have hsecond : i - (lineStarts before).length
        < (lineStartsFrom (Text.byteLength before) after).length := by
      rw [length_lineStartsFrom]
      omega
    rw [List.getElem?_append_right (by omega), List.getElem?_eq_getElem hsecond, Option.getD_some]
    refine iff_of_false (Nat.not_le.mpr ?_) (by omega)
    have hstart := (bounds_of_mem_lineStartsFrom (List.getElem_mem hsecond)).1
    cases after with
    | nil => simp [lineStartsFrom] at hsecond
    | cons c cs => exact Nat.lt_of_lt_of_le (hlt c rfl) (hstart c rfl)

/-- An offset is on the line whose number is that of the line feeds before it. -/
theorem lineAt_eq {before after : List Char} {offset : Nat}
    (hle : Text.byteLength before ≤ offset)
    (hlt : ∀ c ∈ after.head?, offset < Text.byteLength before + c.utf8Size) :
    (ofSource (before ++ after)).lineAt offset = before.count '\n' := by
  have hsize : before.count '\n' < (ofSource (before ++ after)).starts.size := by
    rw [size_starts_ofSource, List.count_append]
    omega
  have hlast := (lineStart_le_iff hle hlt hsize).mpr le_rfl
  have hsearch := search_cases (Nat.zero_le _) hsize
    (fun i hi => (lineStart_lt hi hsize).trans_le hlast) hlast
    fun i hi hi' => Nat.not_le.mp (mt (lineStart_le_iff hle hlt hi').mp (by omega))
  rw [lineAt]
  obtain hhit | hgap := hsearch
  · rw [hhit]
  · rw [hgap]
    rfl

/-- The table of line starts has the start of the line on which a part of the text ends. -/
theorem getElem?_starts_count (before after : List Char) :
    ∃ whole, before = whole ++ Text.lastLine before ∧
      (ofSource (before ++ after)).starts[before.count '\n']? = some (Text.byteLength whole) := by
  obtain ⟨whole, hwhole, hstart⟩ := getElem?_lineStarts_count before
  have hlt : before.count '\n' < (lineStarts before).length := by
    rw [length_lineStarts]
    omega
  refine ⟨whole, hwhole, ?_⟩
  rw [ofSource, List.getElem?_toArray, lineStarts_append, List.getElem?_append_left hlt, hstart]

/-- From the start of the line on which a part of the text ends there is the last line of the part. -/
theorem slice?_lastLine {whole before : List Char} (hwhole : before = whole ++ Text.lastLine before)
    (after : List Char) :
    Text.slice? (Text.byteLength whole) (Text.byteLength before) (before ++ after)
      = some (Text.lastLine before) :=
  Text.slice?_eq_some_iff.mpr ⟨whole, after, by rw [← hwhole], rfl, by rw [← hwhole]⟩

/-! ## Positions -/

/-- **The position after a part of a text**: its line counts the line feeds of that part, and its
column the characters after the last of them. -/
theorem position_eq (before after : List Char) :
    (ofSource (before ++ after)).position (Text.byteLength before)
      = ⟨before.count '\n' + 1, (Text.lastLine before).length + 1⟩ := by
  have hmin : min (Text.byteLength before) (Text.byteLength (before ++ after))
      = Text.byteLength before := by
    rw [Text.byteLength_append]
    omega
  have hline : (ofSource (before ++ after)).lineAt (Text.byteLength before)
      = before.count '\n' := by
    refine lineAt_eq (Nat.le_refl _) fun c _ => ?_
    have := c.utf8Size_pos
    omega
  obtain ⟨whole, hwhole, hstart⟩ := getElem?_starts_count before after
  rw [position]
  simp only [source_ofSource, hmin, hline, lineStart, hstart, Option.getD_some,
    slice?_lastLine hwhole]

/-- Along a part without line feeds only the column goes on. -/
theorem position_append_of_not_mem (before : List Char) {part : List Char} (h : '\n' ∉ part)
    (after : List Char) :
    (ofSource (before ++ part ++ after)).position (Text.byteLength (before ++ part))
      = ⟨before.count '\n' + 1, (Text.lastLine before).length + part.length + 1⟩ := by
  rw [position_eq, List.count_append, List.count_eq_zero.mpr h, Nat.add_zero,
    Text.lastLine_append_of_not_mem _ h, List.length_append]

/-- **Positions keep the order** of the offsets between characters. -/
theorem position_lt {source : List Char} {o o' : Nat} (ho : Text.IsBoundary source o)
    (ho' : Text.IsBoundary source o') (hlt : o < o') :
    ((ofSource source).position o).line < ((ofSource source).position o').line ∨
      ((ofSource source).position o).line = ((ofSource source).position o').line ∧
        ((ofSource source).position o).column < ((ofSource source).position o').column := by
  obtain ⟨part, hpart⟩ := Text.exists_slice?_iff.mpr ⟨Nat.le_of_lt hlt, ho, ho'⟩
  obtain ⟨before, after, rfl, rfl, rfl⟩ := Text.slice?_eq_some_iff.mp hpart
  have hposition := position_eq before (part ++ after)
  rw [← List.append_assoc] at hposition
  rw [hposition]
  -- A line feed in between leads to a later line; otherwise the column goes on.
  by_cases hfeed : '\n' ∈ part
  · left
    have := List.count_pos_iff.mpr hfeed
    rw [position_eq]
    show before.count '\n' + 1 < (before ++ part).count '\n' + 1
    rw [List.count_append]
    omega
  · right
    have hne : part ≠ [] := by
      rintro rfl
      simp at hlt
    have := List.length_pos_iff.mpr hne
    rw [position_append_of_not_mem before hfeed]
    refine ⟨rfl, ?_⟩
    show (Text.lastLine before).length + 1 < (Text.lastLine before).length + part.length + 1
    omega

/-- **A position belongs to one offset** between characters. -/
theorem eq_of_position_eq {source : List Char} {o o' : Nat} (ho : Text.IsBoundary source o)
    (ho' : Text.IsBoundary source o')
    (h : (ofSource source).position o = (ofSource source).position o') : o = o' := by
  rcases Nat.lt_trichotomy o o' with hlt | heq | hlt
  · have := position_lt ho ho' hlt
    rw [h] at this
    omega
  · exact heq
  · have := position_lt ho' ho hlt
    rw [h] at this
    omega

end LineIndex

end DescriptiveLinks
