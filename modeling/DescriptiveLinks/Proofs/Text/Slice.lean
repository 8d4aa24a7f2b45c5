import DescriptiveLinks.Text.Offset

/-! # Parts of a text

Byte offsets that cut a text between its characters, and the parts between two of them.

* `Text.IsBoundary` says of an offset that it cuts a text.
* `Text.slice?_eq_some_iff` says which part there is between two offsets, and
  `Text.exists_slice?_iff` between which offsets there is one. -/

namespace DescriptiveLinks.Text

theorem byteLength_eq_zero_iff {cs : List Char} : byteLength cs = 0 ↔ cs = [] := by
  cases cs with
  | nil => simp
  | cons c cs =>
    have := c.utf8Size_pos
    simp only [byteLength_cons, reduceCtorEq, iff_false]
    omega

/-- Of two first parts of a text the one with fewer bytes begins the other. -/
theorem exists_eq_append_of_byteLength_le {as bs cs ds : List Char} (h : as ++ bs = cs ++ ds)
    (hle : byteLength as ≤ byteLength cs) : ∃ part, cs = as ++ part ∧ bs = part ++ ds := by
  rcases List.append_eq_append_iff.mp h with ⟨part, rfl, rfl⟩ | ⟨part, rfl, rfl⟩
  · exact ⟨part, rfl, rfl⟩
  · rw [byteLength_append] at hle
    obtain rfl : part = [] := byteLength_eq_zero_iff.mp (by omega)
    exact ⟨[], by simp, rfl⟩

/-- Whether an offset is between characters of a text, or at one of its ends. -/
def IsBoundary (source : List Char) (offset : Nat) : Prop :=
  ∃ before after, source = before ++ after ∧ byteLength before = offset

theorem isBoundary_iff {source : List Char} {offset : Nat} :
    IsBoundary source offset ↔ (splitAt? offset source).isSome := by
  simp only [IsBoundary, Option.isSome_iff_exists, Prod.exists, splitAt?_eq_some_iff]

instance (source : List Char) (offset : Nat) : Decidable (IsBoundary source offset) :=
  decidable_of_iff _ isBoundary_iff.symm

theorem IsBoundary.le {source : List Char} {offset : Nat} (h : IsBoundary source offset) :
    offset ≤ byteLength source := by
  obtain ⟨before, after, rfl, rfl⟩ := h
  rw [byteLength_append]
  exact Nat.le_add_right _ _

theorem isBoundary_byteLength (source : List Char) : IsBoundary source (byteLength source) :=
  ⟨source, [], (List.append_nil source).symm, rfl⟩

/-- **The part between two offsets** is what remains of the text when as many bytes as the first
says are taken from its left, and all behind the second from its right. -/
theorem slice?_eq_some_iff {start stop : Nat} {source part : List Char} :
    slice? start stop source = some part ↔ ∃ before after, source = before ++ part ++ after ∧
      byteLength before = start ∧ byteLength (before ++ part) = stop := by
  rw [slice?]
  constructor
  · intro h
    split at h
    · next hle =>
      simp only [Option.bind_eq_bind, Option.bind_eq_some_iff, Prod.exists, Option.pure_def,
        Option.some_inj] at h
      obtain ⟨before, rest, hbefore, _, after, hpart, rfl⟩ := h
      obtain ⟨rfl, rfl⟩ := splitAt?_eq_some_iff.mp hbefore
      obtain ⟨rfl, hlength⟩ := splitAt?_eq_some_iff.mp hpart
      refine ⟨before, after, by rw [List.append_assoc], rfl, ?_⟩
      rw [byteLength_append]
      omega
    · cases h
  · rintro ⟨before, after, rfl, rfl, rfl⟩
    have hbefore : splitAt? (byteLength before) (before ++ (part ++ after))
        = some (before, part ++ after) := splitAt?_eq_some_iff.mpr ⟨rfl, rfl⟩
    have hpart : splitAt? (byteLength part) (part ++ after) = some (part, after) :=
      splitAt?_eq_some_iff.mpr ⟨rfl, rfl⟩
    rw [List.append_assoc]
    simp [hbefore, hpart]

section Bounds

variable {start stop : Nat} {source part : List Char}

theorem le_of_slice?_eq_some (h : slice? start stop source = some part) : start ≤ stop := by
  obtain ⟨before, after, -, rfl, rfl⟩ := slice?_eq_some_iff.mp h
  rw [byteLength_append]
  exact Nat.le_add_right _ _

theorem isBoundary_start_of_slice? (h : slice? start stop source = some part) :
    IsBoundary source start := by
  obtain ⟨before, after, rfl, hstart, -⟩ := slice?_eq_some_iff.mp h
  exact ⟨before, part ++ after, List.append_assoc _ _ _, hstart⟩

theorem isBoundary_stop_of_slice? (h : slice? start stop source = some part) :
    IsBoundary source stop := by
  obtain ⟨before, after, rfl, -, hstop⟩ := slice?_eq_some_iff.mp h
  exact ⟨before ++ part, after, rfl, hstop⟩

/-- There is a part between two offsets that are in order and both cut the text. -/
theorem exists_slice?_iff :
    (∃ part, slice? start stop source = some part) ↔
      start ≤ stop ∧ IsBoundary source start ∧ IsBoundary source stop := by
  constructor
  · rintro ⟨part, h⟩
    exact ⟨le_of_slice?_eq_some h, isBoundary_start_of_slice? h, isBoundary_stop_of_slice? h⟩
  · rintro ⟨hle, ⟨before, rest, rfl, rfl⟩, before', after, heq, rfl⟩
    obtain ⟨part, rfl, rfl⟩ := exists_eq_append_of_byteLength_le heq hle
    exact ⟨part, slice?_eq_some_iff.mpr ⟨before, after, by simp, rfl, rfl⟩⟩

/-- An offset inside a part cuts that part. -/
theorem IsBoundary.exists_eq_append {before part after : List Char} {offset : Nat}
    (h : IsBoundary (before ++ part ++ after) offset) (hstart : byteLength before ≤ offset)
    (hstop : offset ≤ byteLength (before ++ part)) :
    ∃ left right, part = left ++ right ∧ byteLength (before ++ left) = offset := by
  obtain ⟨cs, ds, heq, rfl⟩ := h
  obtain ⟨right, heq', rfl⟩ := exists_eq_append_of_byteLength_le heq.symm hstop
  obtain ⟨left, rfl, rfl⟩ := exists_eq_append_of_byteLength_le heq' hstart
  exact ⟨left, right, rfl, rfl⟩

end Bounds

@[simp] theorem slice?_zero_zero (cs : List Char) : slice? 0 0 cs = some [] :=
  slice?_eq_some_iff.mpr ⟨[], cs, rfl, rfl, rfl⟩

/-- All of a text is a part of it. -/
@[simp] theorem slice?_zero_byteLength (cs : List Char) :
    slice? 0 (byteLength cs) cs = some cs :=
  slice?_eq_some_iff.mpr ⟨[], [], (List.append_nil cs).symm, rfl, rfl⟩

end DescriptiveLinks.Text
