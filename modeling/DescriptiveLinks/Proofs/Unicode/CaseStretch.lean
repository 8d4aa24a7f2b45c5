import DescriptiveLinks.Unicode.CaseMapping

/-! # Case mappings along stretches of code points

A law of a case mapping speaks of every code point, but the runs of its table move whole rows of
letters at once. This file lets a law be checked run by run: a *stretch* is `c`, `c + s`, …,
`c + s * n`, and looking up a stretch succeeds when all of it stays within one run or outside all
runs.

* `CaseMapping.textAlong?` is the image of the first code points of parallel stretches, and
  `CaseMapping.flatMap_images_of_textAlong?` says that the others move in parallel with them.
* `CaseMapping.forall_images` lifts a check of the runs to all code points. -/

namespace DescriptiveLinks.Unicode

/-! ## Looking up a stretch -/

/-- The section of a table that would hold the rows for all code points from `c` to `d`, if it is
one section. -/
def CodeTable.sectionAlong? {Row : Type} : CodeTable Row → Nat → Nat → Option (List Row)
  | [], _, _ => some []
  | (last, rows) :: rest, c, d =>
    if d ≤ last then some rows else if c ≤ last then none else sectionAlong? rest c d

theorem CodeTable.sectionOf_of_sectionAlong? {Row : Type} {t : CodeTable Row} {c d e : Nat}
    {rows : List Row} (h : t.sectionAlong? c d = some rows) (hce : c ≤ e) (hed : e ≤ d) :
    t.sectionOf e = rows := by
  induction t with
  | nil => simpa [sectionAlong?, sectionOf] using h
  | cons s t ih =>
    obtain ⟨last, own⟩ := s
    rw [sectionAlong?] at h
    rw [sectionOf]
    split at h
    · next hd => rwa [if_pos (Nat.le_trans hed hd), ← Option.some_inj]
    · split at h
      · cases h
      · next hc => rw [if_neg (by omega), ih h]

/-- The images of `c` under the runs, if all of `c`, `c + s`, …, `c + s * n` move along with it: one
run moves them all, or none moves any. -/
def CaseRun.imagesAlong? (s n : Nat) : List CaseRun → Nat → Option (List Nat)
  | [], c => some [c]
  | r :: rs, c =>
    if c + s * n < r.first then some [c]
    else if r.first ≤ c ∧ r.last < c then imagesAlong? s n rs c
    else if c + s * n ≤ r.last ∧ (n = 0 ∨ s % r.step = 0) then
      if (c + s * n - r.first) % r.step ≠ 0 then some [c]
      else if r.first ≤ c then some (r.images.map (· + (c - r.first)))
      else none
    else none

/-- Steps that are multiples of the step of a run keep the remainder by which it tells its code
points. -/
private theorem mod_step_eq {s n c i first step : Nat} (hs : n = 0 ∨ s % step = 0) (hi : i ≤ n)
    (hc : first ≤ c + s * i) : (c + s * n - first) % step = (c + s * i - first) % step := by
  obtain ⟨k, rfl⟩ := Nat.exists_eq_add_of_le hi
  rcases hs with h0 | hs
  · obtain ⟨rfl, rfl⟩ : i = 0 ∧ k = 0 := by omega
    rfl
  · rw [Nat.mul_add, ← Nat.add_assoc, Nat.sub_add_comm hc, Nat.add_mod, Nat.mul_mod, hs,
      Nat.zero_mul, Nat.zero_mod, Nat.add_zero, Nat.mod_mod]

theorem CaseRun.images?_of_imagesAlong? {s n c i : Nat} {rs : List CaseRun} {images : List Nat}
    (h : imagesAlong? s n rs c = some images) (hi : i ≤ n) :
    (images? rs (c + s * i)).getD [c + s * i] = images.map (· + s * i) := by
  have hsi : s * i ≤ s * n := Nat.mul_le_mul_left s hi
  induction rs with
  | nil =>
    rw [imagesAlong?, Option.some_inj] at h
    simp [images?, ← h]
  | cons r rs ih =>
    rw [imagesAlong?] at h
    rw [images?]
    split at h
    -- The stretch ends before the run, or else starts behind it, or else ends inside it.
    · rw [Option.some_inj] at h
      rw [if_pos (by omega), ← h]
      rfl
    split at h
    · rw [if_neg (by omega), if_neg (by omega), ih h]
    split at h
    · next hlast =>
      split at h
      · next hmod =>
        -- The run steps over the end of the stretch, so it steps over all of it.
        rw [Option.some_inj] at h
        split
        · rw [← h]; rfl
        · rw [if_pos (by omega), ← mod_step_eq hlast.2 hi (by omega), if_neg hmod, ← h]
          rfl
      · next hmod =>
        -- The run moves the end of the stretch, so it moves all of it, unless it starts inside.
        split at h
        · have hsub : c + s * i - r.first = c - r.first + s * i := by omega
          rw [Option.some_inj] at h
          rw [if_neg (by omega), if_pos (by omega), ← mod_step_eq hlast.2 hi (by omega),
            if_pos (Decidable.not_not.mp hmod), ← h, hsub]
          rw [Option.getD_some, List.map_map]
          exact List.map_congr_left fun a _ => (Nat.add_assoc a _ _).symm
        · cases h
    · cases h

namespace CaseMapping

/-- The images of `c`, if all of `c`, `c + s`, …, `c + s * n` move along with it. -/
def imagesAlong? (m : CaseMapping) (s n c : Nat) : Option (List Nat) :=
  (m.sectionAlong? c (c + s * n)).bind fun runs => CaseRun.imagesAlong? s n runs c

/-- The image of a text of code points, if the stretches of `n` steps `s` from each of them move
along with it. -/
def textAlong? (m : CaseMapping) (s n : Nat) : List Nat → Option (List Nat)
  | [] => some []
  | c :: cs => (m.imagesAlong? s n c).bind fun ds => (m.textAlong? s n cs).map (ds ++ ·)

theorem images_of_imagesAlong? {m : CaseMapping} {s n c i : Nat} {ds : List Nat}
    (h : m.imagesAlong? s n c = some ds) (hi : i ≤ n) :
    m.images (c + s * i) = ds.map (· + s * i) := by
  have hsi : s * i ≤ s * n := Nat.mul_le_mul_left s hi
  obtain ⟨runs, hruns, hds⟩ := Option.bind_eq_some_iff.mp h
  rw [images, CodeTable.sectionOf_of_sectionAlong? hruns (by omega) (by omega)]
  exact CaseRun.images?_of_imagesAlong? hds hi

/-- **Parallel stretches move in parallel.** -/
theorem flatMap_images_of_textAlong? {m : CaseMapping} {s n i : Nat} {cs ds : List Nat}
    (h : m.textAlong? s n cs = some ds) (hi : i ≤ n) :
    (cs.map (· + s * i)).flatMap m.images = ds.map (· + s * i) := by
  induction cs generalizing ds with
  | nil =>
    rw [textAlong?, Option.some_inj] at h
    simp [← h]
  | cons c cs ih =>
    obtain ⟨first, hfirst, hrest⟩ := Option.bind_eq_some_iff.mp h
    obtain ⟨rest, hcs, rfl⟩ := Option.map_eq_some_iff.mp hrest
    rw [List.map_cons, List.flatMap_cons, images_of_imagesAlong? hfirst hi, ih hcs,
      List.map_append]

end CaseMapping

/-! ## From the runs to all code points -/

namespace CaseRun

/-- The number of steps from the first code point of a run to the last. -/
def count (r : CaseRun) : Nat :=
  (r.last - r.first) / r.step

/-- The runs of one code point each that a run falls into. -/
def singles (r : CaseRun) : List CaseRun :=
  (List.range (r.count + 1)).map fun i =>
    ⟨r.first + r.step * i, r.first + r.step * i, 1, r.images.map (· + r.step * i)⟩

/-- A code point that the runs move is so many steps from the start of one of them, and so are its
images from those of the start. -/
theorem exists_of_images? {rs : List CaseRun} {c : Nat} {ds : List Nat}
    (h : images? rs c = some ds) :
    ∃ r ∈ rs, ∃ i ≤ r.count, c = r.first + r.step * i ∧ ds = r.images.map (· + r.step * i) := by
  induction rs with
  | nil => cases h
  | cons r rs ih =>
    rw [images?] at h
    split at h
    · cases h
    split at h
    · split at h
      · next hmod =>
        have hstep : r.step * ((c - r.first) / r.step) = c - r.first := by
          have := Nat.div_add_mod (c - r.first) r.step
          omega
        refine ⟨r, List.mem_cons_self, (c - r.first) / r.step,
          Nat.div_le_div_right (by omega), ?_, ?_⟩
        · rw [hstep]; omega
        · rw [hstep]; exact (Option.some_inj.mp h).symm
      · cases h
    · obtain ⟨q, hq, hi⟩ := ih h
      exact ⟨q, List.mem_cons_of_mem r hq, hi⟩

end CaseRun

/-- **Laws of a case mapping, checked run by run.** If the check `P` of a run gives the law `Q` for
the code points of the run, and every run passes it as a whole or point by point, then `Q` holds for
every code point that the mapping moves. -/
theorem CaseMapping.forall_images {m : CaseMapping} {P : CaseRun → Bool}
    {Q : Nat → List Nat → Prop}
    (hlaw : ∀ r, P r → ∀ i ≤ r.count, Q (r.first + r.step * i) (r.images.map (· + r.step * i)))
    (hcheck : ∀ r ∈ m.rows, P r || r.singles.all P) (c : Nat) :
    m.images c = [c] ∨ Q c (m.images c) := by
  rw [images]
  cases h : CaseRun.images? (m.sectionOf c) c with
  | none => exact .inl rfl
  | some ds =>
    right
    obtain ⟨r, hr, i, hi, rfl, rfl⟩ := CaseRun.exists_of_images? h
    rcases (Bool.or_eq_true _ _).mp (hcheck r (CodeTable.mem_rows_of_mem_sectionOf hr)) with hP | hP
    · exact hlaw r hP i hi
    · -- The run has been checked point by point, and `i` steps from its start is one of them.
      have hi : i ∈ List.range (r.count + 1) := List.mem_range.mpr (by omega)
      have := hlaw _ (List.all_eq_true.mp hP _ (List.mem_map_of_mem hi)) 0 (Nat.zero_le _)
      simpa [Function.comp_def] using this

end DescriptiveLinks.Unicode
