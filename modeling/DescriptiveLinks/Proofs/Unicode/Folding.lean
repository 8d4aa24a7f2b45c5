import DescriptiveLinks.Phrase.Key
import DescriptiveLinks.Proofs.Unicode.CaseStretch

/-! # Laws of the Unicode tables

What keys rely on: a letter that has been folded is its own folded form, and no white space is part
of a word. Each law is checked on the rows of the tables and then holds for every character.

* `foldCase_singleton_of_mem` is the closure of case folding.
* `isWord_eq_false_of_isWhiteSpace` keeps the two classes of characters apart. -/

namespace DescriptiveLinks

open Unicode

namespace Unicode

/-! ## Images are characters -/

/-- A case mapping sends code points of characters to code points of characters. -/
def CaseMapping.Valid (m : CaseMapping) : Prop :=
  ∀ c : Nat, c.isValidChar → ∀ d ∈ m.images c, d.isValidChar

/-- Whether the images of a run stay on one side of the surrogates. -/
def CaseRun.avoidsSurrogates (r : CaseRun) : Bool :=
  r.images.all fun d =>
    d + (r.last - r.first) < 0xD800 || (0xDFFF < d && d + (r.last - r.first) < 0x110000)

theorem CaseRun.isValidChar_of_avoidsSurrogates {r : CaseRun} (h : r.avoidsSurrogates) {i : Nat}
    (hi : i ≤ r.count) : ∀ d ∈ r.images.map (· + r.step * i), d.isValidChar := by
  intro d hd
  obtain ⟨e, he, rfl⟩ := List.mem_map.mp hd
  have hlast : r.step * i ≤ r.last - r.first :=
    Nat.le_trans (Nat.mul_le_mul_left _ hi) (Nat.mul_div_le _ _)
  have hbound := List.all_eq_true.mp h e he
  simp only [Bool.or_eq_true, Bool.and_eq_true, decide_eq_true_eq] at hbound
  rw [Nat.isValidChar]
  omega

theorem CaseMapping.valid_of_avoidsSurrogates {m : CaseMapping}
    (h : ∀ r ∈ m.rows, r.avoidsSurrogates) : m.Valid := by
  intro c hc
  rcases CaseMapping.forall_images (Q := fun _ ds => ∀ d ∈ ds, d.isValidChar)
    (fun _ hr _ hi => CaseRun.isValidChar_of_avoidsSurrogates hr hi)
    (fun r hr => by rw [h r hr, Bool.true_or]) c with hself | hall
  · rw [hself]
    intro d hd
    rwa [List.mem_singleton.mp hd]
  · exact hall

/-- The code points of the image of a text are the images of its code points. -/
theorem CaseMapping.map_toNat_mapText {m : CaseMapping} (hm : m.Valid) (cs : List Char) :
    (m.mapText cs).map Char.toNat = (cs.map Char.toNat).flatMap m.images := by
  have hmap : ∀ c : Char, (m.map c).map Char.toNat = m.images c.toNat := by
    intro c
    have hofNat : ∀ d ∈ m.images c.toNat, (Char.ofNat d).toNat = d := by
      intro d hd
      rw [Char.ofNat, dif_pos (hm c.toNat c.valid d hd)]
      rfl
    rw [map, List.map_map]
    exact (List.map_congr_left hofNat).trans (List.map_id _)
  induction cs with
  | nil => rfl
  | cons c cs ih => rw [mapText_cons, List.map_append, hmap, ih, List.map_cons, List.flatMap_cons]

/-! ## Folding code points -/

/-- The folded form of a text of code points. -/
def foldCodes (cs : List Nat) : List Nat :=
  (cs.flatMap upperCase.images).flatMap caseFold.images

/-- The folded form of a text of code points, if the stretches of `n` steps `s` from each of them
fold along with it. -/
def foldAlong? (s n : Nat) (cs : List Nat) : Option (List Nat) :=
  (upperCase.textAlong? s n cs).bind (caseFold.textAlong? s n)

theorem foldCodes_of_foldAlong? {s n i : Nat} {cs ds : List Nat}
    (h : foldAlong? s n cs = some ds) (hi : i ≤ n) :
    foldCodes (cs.map (· + s * i)) = ds.map (· + s * i) := by
  obtain ⟨us, hus, hds⟩ := Option.bind_eq_some_iff.mp h
  rw [foldCodes, CaseMapping.flatMap_images_of_textAlong? hus hi,
    CaseMapping.flatMap_images_of_textAlong? hds hi]

/-- Whether the upper-case images of a run are their own upper case. -/
def CaseRun.staysUpper (r : CaseRun) : Bool :=
  r.images.all fun d => upperCase.textAlong? r.step r.count [d] = some [d]

/-- Whether the folded images of a run are their own folded form. -/
def CaseRun.staysFolded (r : CaseRun) : Bool :=
  r.images.all fun d => foldAlong? r.step r.count [d] = some [d]

/-! ## The tables -/

/-- **What is evaluated of the tables**: no image is a surrogate, and images are images of
themselves, run by run or else code point by code point. -/
theorem caseTables_checked :
    (∀ r ∈ upperCase.rows, r.avoidsSurrogates) ∧ (∀ r ∈ caseFold.rows, r.avoidsSurrogates) ∧
    (∀ r ∈ upperCase.rows, r.staysUpper || r.singles.all CaseRun.staysUpper) ∧
    ∀ r ∈ caseFold.rows, r.staysFolded || r.singles.all CaseRun.staysFolded := by
  decide +kernel

theorem valid_upperCase : upperCase.Valid :=
  CaseMapping.valid_of_avoidsSurrogates caseTables_checked.1

theorem valid_caseFold : caseFold.Valid :=
  CaseMapping.valid_of_avoidsSurrogates caseTables_checked.2.1

theorem map_toNat_foldCase (cs : List Char) :
    (foldCase cs).map Char.toNat = foldCodes (cs.map Char.toNat) := by
  rw [foldCase, CaseMapping.map_toNat_mapText valid_caseFold,
    CaseMapping.map_toNat_mapText valid_upperCase, foldCodes]

/-- An upper-case letter is its own upper case. -/
theorem images_upperCase_of_mem {c u : Nat} (h : u ∈ upperCase.images c) :
    upperCase.images u = [u] := by
  have hlaw : ∀ r : CaseRun, r.staysUpper → ∀ i ≤ r.count,
      ∀ d ∈ r.images.map (· + r.step * i), upperCase.images d = [d] := by
    intro r hr i hi d hd
    obtain ⟨e, he, rfl⟩ := List.mem_map.mp hd
    have := CaseMapping.flatMap_images_of_textAlong?
      (of_decide_eq_true (List.all_eq_true.mp hr e he)) hi
    simpa using this
  -- A letter that upper-casing does not move is its own image.
  rcases CaseMapping.forall_images (Q := fun _ ds => ∀ d ∈ ds, upperCase.images d = [d])
    hlaw caseTables_checked.2.2.1 c with hself | hall
  · rw [hself, List.mem_singleton] at h
    rwa [h]
  · exact hall u h

/-- A folded letter is its own folded form. -/
theorem foldCodes_singleton_of_mem_images {u d : Nat} (hu : upperCase.images u = [u])
    (h : d ∈ caseFold.images u) : foldCodes [d] = [d] := by
  have hlaw : ∀ r : CaseRun, r.staysFolded → ∀ i ≤ r.count,
      ∀ d ∈ r.images.map (· + r.step * i), foldCodes [d] = [d] := by
    intro r hr i hi d hd
    obtain ⟨e, he, rfl⟩ := List.mem_map.mp hd
    exact foldCodes_of_foldAlong? (of_decide_eq_true (List.all_eq_true.mp hr e he)) hi
  rcases CaseMapping.forall_images (Q := fun _ ds => ∀ d ∈ ds, foldCodes [d] = [d])
    hlaw caseTables_checked.2.2.2 u with hself | hall
  · -- Folding does not move `u`, and neither does upper-casing.
    rw [hself, List.mem_singleton] at h
    rw [h, foldCodes, List.flatMap_singleton, hu, List.flatMap_singleton, hself]
  · exact hall d h

end Unicode

/-- **Case folding is closed**: a character of a folded text is its own folded form. -/
theorem foldCase_singleton_of_mem {cs : List Char} {d : Char} (h : d ∈ foldCase cs) :
    foldCase [d] = [d] := by
  have hd : d.toNat ∈ foldCodes (cs.map Char.toNat) := by
    rw [← map_toNat_foldCase]
    exact List.mem_map_of_mem h
  -- The character comes from an upper-case letter `u`, which in turn comes from `c`.
  obtain ⟨u, hu, hd⟩ := List.mem_flatMap.mp hd
  obtain ⟨c, -, hu⟩ := List.mem_flatMap.mp hu
  rw [← List.map_inj_right fun _ _ => Char.toNat_inj.mp, map_toNat_foldCase]
  exact foldCodes_singleton_of_mem_images (images_upperCase_of_mem hu) hd

/-! ## Words and white space -/

namespace Unicode

theorem CodeRange.exists_of_cover {rs : List CodeRange} {c : Nat} (h : cover rs c) :
    ∃ r ∈ rs, r.first ≤ c ∧ c ≤ r.last := by
  induction rs with
  | nil => cases h
  | cons r rs ih =>
    rw [cover_cons] at h
    split at h
    · cases h
    split at h
    · exact ⟨r, List.mem_cons_self, by omega, by omega⟩
    · obtain ⟨q, hq, hc⟩ := ih h
      exact ⟨q, List.mem_cons_of_mem r hq, hc⟩

/-- No white space is part of a word. -/
theorem isWord_eq_false_of_isWhiteSpace {c : Char} (h : isWhiteSpace c) : isWord c = false := by
  have hcheck : ∀ r ∈ whiteSpaceRanges, ∀ i < r.last + 1 - r.first,
      CodeRange.cover (wordCharacters.sectionOf (r.first + i)) (r.first + i) = false := by
    decide
  obtain ⟨r, hr, hfirst, hlast⟩ := CodeRange.exists_of_cover h
  obtain ⟨i, hi⟩ := Nat.exists_eq_add_of_le hfirst
  rw [isWord, hi]
  exact hcheck r hr i (by omega)

end Unicode

end DescriptiveLinks
