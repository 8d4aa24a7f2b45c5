import Mathlib.Data.List.DropRight
import DescriptiveLinks.Proofs.Text.Lines
import DescriptiveLinks.Proofs.Text.Slice

/-! # Bytes of a text

Offsets count the bytes of a text in UTF-8. A line feed is one byte, and no other character has that
byte in it, so that lines can be counted and cut without reading characters.

* `Text.count_bytes` counts line feeds by bytes, and `Text.rtakeWhile_bytes` finds the last line by
  bytes.
* `Text.exists_cut` says where an offset is: at a character of the text, inside one, or at the end;
  and `Text.isBoundary_cut_iff` in which of the cases it cuts the text.
* `Text.bytesBefore` and `Text.bytesOnLine` are the bytes before an offset, of the text and of its
  line; `Text.count_bytesBefore` and `Text.add_length_bytesOnLine` measure them. -/

namespace DescriptiveLinks.Text

/-- The byte of a line feed. -/
def lineFeed : UInt8 := 10

/-- The **bytes** of a text in UTF-8. -/
def bytes (cs : List Char) : List UInt8 :=
  cs.flatMap String.utf8EncodeChar

@[simp] theorem bytes_nil : bytes [] = [] := rfl

@[simp] theorem bytes_cons (c : Char) (cs : List Char) :
    bytes (c :: cs) = String.utf8EncodeChar c ++ bytes cs := by
  simp [bytes]

@[simp] theorem bytes_append (cs ds : List Char) : bytes (cs ++ ds) = bytes cs ++ bytes ds := by
  simp [bytes]

@[simp] theorem length_bytes (cs : List Char) : (bytes cs).length = byteLength cs := by
  induction cs with
  | nil => rfl
  | cons c cs ih => rw [bytes_cons, List.length_append, String.length_utf8EncodeChar, ih,
      byteLength_cons]

/-! ## Line feeds -/

theorem utf8EncodeChar_lineFeed : String.utf8EncodeChar '\n' = [lineFeed] := rfl

theorem lineFeed_eq_ofNat_iff {n : Nat} (h : n < 256) : lineFeed = UInt8.ofNat n ↔ n = 10 := by
  rw [← UInt8.toNat_inj, UInt8.toNat_ofNat_of_lt' h]
  exact eq_comm

/-- Only a line feed has the byte of a line feed: all bytes of a character that takes several of them
are beyond ASCII. -/
theorem lineFeed_mem_utf8EncodeChar_iff {c : Char} :
    lineFeed ∈ String.utf8EncodeChar c ↔ c = '\n' := by
  constructor
  · intro h
    have hc : c.val.toNat = 10 := by
      rw [String.utf8EncodeChar] at h
      split_ifs at h
      all_goals
        simp (disch := omega) only [List.mem_cons, List.not_mem_nil, or_false,
          lineFeed_eq_ofNat_iff] at h
        omega
    exact Char.toNat_inj.mp hc
  · rintro rfl
    exact List.mem_singleton_self lineFeed

theorem lineFeed_mem_bytes_iff {cs : List Char} : lineFeed ∈ bytes cs ↔ '\n' ∈ cs := by
  simp [bytes, lineFeed_mem_utf8EncodeChar_iff]

theorem count_utf8EncodeChar (c : Char) :
    (String.utf8EncodeChar c).count lineFeed = [c].count '\n' := by
  by_cases h : c = '\n'
  · rw [h, utf8EncodeChar_lineFeed, List.count_singleton_self, List.count_singleton_self]
  · rw [List.count_eq_zero.mpr (mt lineFeed_mem_utf8EncodeChar_iff.mp h),
      List.count_eq_zero.mpr (by simpa using Ne.symm h)]

/-- Line feeds may be counted by bytes. -/
theorem count_bytes (cs : List Char) : (bytes cs).count lineFeed = cs.count '\n' := by
  induction cs with
  | nil => rfl
  | cons c cs ih =>
    rw [bytes_cons, List.count_append, count_utf8EncodeChar, ih, ← List.count_append,
      List.singleton_append]

/-- The last line may be found by bytes. -/
theorem rtakeWhile_bytes (cs : List Char) :
    (bytes cs).rtakeWhile (· ≠ lineFeed) = bytes (lastLine cs) := by
  have hline : lineFeed ∉ bytes (lastLine cs) :=
    mt lineFeed_mem_bytes_iff.mp (not_mem_lastLine cs)
  rcases eq_lastLine_or_exists cs with h | ⟨ds, h⟩
  · rw [← h] at hline ⊢
    exact List.rtakeWhile_eq_self_iff.mpr (forall_ne_of_not_mem hline)
  · -- The line feed in front of the last line is a byte of its own, and stops the search there.
    have hbytes : bytes cs = (bytes ds ++ [lineFeed]) ++ bytes (lastLine cs) := by
      rw [congrArg bytes h, bytes_append, bytes_cons, utf8EncodeChar_lineFeed, List.append_assoc]
    rw [hbytes, rtakeWhile_append_of_not_mem _ hline, List.rtakeWhile_concat_neg _ _ _ (by simp),
      List.nil_append]

/-! ## Bytes before an offset -/

/-- The bytes of a text before an offset. -/
def bytesBefore (source : List Char) (offset : Nat) : List UInt8 :=
  (bytes source).take offset

/-- The bytes between the start of a line and an offset on that line: those that come after the last
line feed before the offset. -/
def bytesOnLine (source : List Char) (offset : Nat) : List UInt8 :=
  (bytesBefore source offset).rtakeWhile (· ≠ lineFeed)

/-- An offset of a text is where a character begins, or inside that character, or at the end. -/
theorem exists_cut {cs : List Char} {offset : Nat} (h : offset ≤ byteLength cs) :
    ∃ before after, cs = before ++ after ∧ byteLength before ≤ offset ∧
      ∀ c ∈ after.head?, offset < byteLength before + c.utf8Size := by
  induction cs generalizing offset with
  | nil => exact ⟨[], [], rfl, Nat.zero_le _, nofun⟩
  | cons c cs ih =>
    by_cases hc : offset < c.utf8Size
    · refine ⟨[], c :: cs, rfl, Nat.zero_le _, fun d hd => ?_⟩
      cases hd
      rwa [byteLength_nil, Nat.zero_add]
    · rw [byteLength_cons] at h
      obtain ⟨before, after, rfl, hle, hlt⟩ := @ih (offset - c.utf8Size) (by omega)
      refine ⟨c :: before, after, rfl, ?_, fun d hd => ?_⟩
      · rw [byteLength_cons]
        omega
      · have := hlt d hd
        rw [byteLength_cons]
        omega

section Cut

variable {before after : List Char} {offset : Nat}

/-- Inside a character the text is not cut. -/
theorem isBoundary_cut_iff (hle : byteLength before ≤ offset)
    (hlt : ∀ c ∈ after.head?, offset < byteLength before + c.utf8Size) :
    IsBoundary (before ++ after) offset ↔ offset = byteLength before := by
  constructor
  · rintro ⟨cs, ds, heq, rfl⟩
    obtain ⟨part, rfl, rfl⟩ := exists_eq_append_of_byteLength_le heq hle
    cases part with
    | nil => rw [List.append_nil]
    | cons c part =>
      have hc := hlt c rfl
      rw [byteLength_append, byteLength_cons] at hc
      omega
  · rintro rfl
    exact ⟨before, after, rfl, rfl⟩

/-- The bytes before an offset are those of the characters before it and some of the character that
it is inside, and none of these is a line feed. -/
theorem bytesBefore_cut (hle : byteLength before ≤ offset)
    (hlt : ∀ c ∈ after.head?, offset < byteLength before + c.utf8Size) :
    ∃ rest, bytesBefore (before ++ after) offset = bytes before ++ rest ∧ lineFeed ∉ rest := by
  refine ⟨(bytes after).take (offset - byteLength before), ?_, ?_⟩
  · rw [bytesBefore, bytes_append, List.take_append,
      List.take_of_length_le (by rwa [length_bytes]), length_bytes]
  · cases after with
    | nil => simp
    | cons c after =>
      have hc := hlt c rfl
      rw [bytes_cons, List.take_append_of_le_length (by rw [String.length_utf8EncodeChar]; omega)]
      intro hmem
      -- A line feed is one byte, so that no offset is inside it.
      obtain rfl := lineFeed_mem_utf8EncodeChar_iff.mp (List.mem_of_mem_take hmem)
      have hsize : ('\n' : Char).utf8Size = 1 := rfl
      have hzero : offset - byteLength before = 0 := by omega
      rw [hzero, List.take_zero] at hmem
      cases hmem

theorem count_bytesBefore (hle : byteLength before ≤ offset)
    (hlt : ∀ c ∈ after.head?, offset < byteLength before + c.utf8Size) :
    (bytesBefore (before ++ after) offset).count lineFeed = before.count '\n' := by
  obtain ⟨rest, hbytes, hrest⟩ := bytesBefore_cut hle hlt
  rw [hbytes, List.count_append, count_bytes, List.count_eq_zero.mpr hrest, Nat.add_zero]

/-- The bytes of a line before an offset begin where the last line of the characters before it
does. -/
theorem add_length_bytesOnLine (hle : byteLength before ≤ offset)
    (hlt : ∀ c ∈ after.head?, offset < byteLength before + c.utf8Size)
    (hbound : offset ≤ byteLength (before ++ after)) {whole : List Char}
    (hwhole : before = whole ++ lastLine before) :
    byteLength whole + (bytesOnLine (before ++ after) offset).length = offset := by
  obtain ⟨rest, hbytes, hrest⟩ := bytesBefore_cut hle hlt
  have hlength : byteLength before + rest.length = offset := by
    have htake : (bytesBefore (before ++ after) offset).length = offset :=
      List.length_take_of_le (by rwa [length_bytes])
    rwa [hbytes, List.length_append, length_bytes] at htake
  have hbefore : byteLength before = byteLength whole + byteLength (lastLine before) := by
    rw [← byteLength_append, ← hwhole]
  rw [bytesOnLine, hbytes, rtakeWhile_append_of_not_mem _ hrest, rtakeWhile_bytes,
    List.length_append, length_bytes]
  omega

end Cut

end DescriptiveLinks.Text
