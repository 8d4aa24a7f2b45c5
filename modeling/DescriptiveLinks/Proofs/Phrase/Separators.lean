import DescriptiveLinks.Proofs.Phrase.Words

/-! # Separators

Characters that belong to no word only separate words, and which of them do so makes no difference.
Since a key is taken after folding, that rests on the tables of letters: a character that belongs to
no word is never folded away, and nothing that it is folded to belongs to a word.

* `foldCase_separators` is what the tables of letters have to give.
* `normalize_append_of_separators` is the phrase of two texts with separators between them.
* `normalize_append_separators` says what follows for texts that are put together, surrounded, or
  separated in another way. -/

namespace DescriptiveLinks

open Unicode

namespace Unicode

/-! ## Code points -/

/-- Whether a code point is that of a word character. -/
def isWordCode (c : Nat) : Bool :=
  CodeRange.cover (wordCharacters.sectionOf c) c

/-- Whether one of the ranges holds all of the code points from `c` to `c + n`. -/
def CodeRange.coverAlong : List CodeRange → Nat → Nat → Bool
  | [], _, _ => false
  | r :: rs, c, n =>
    if c < r.first then false else if c + n ≤ r.last then true
    else if c ≤ r.last then false else coverAlong rs c n

theorem CodeRange.cover_of_coverAlong {rs : List CodeRange} {c n i : Nat}
    (h : coverAlong rs c n) (hi : i ≤ n) : cover rs (c + i) = true := by
  induction rs with
  | nil => cases h
  | cons r rs ih =>
    rw [coverAlong] at h
    rw [cover_cons]
    split at h
    · cases h
    split at h
    · rw [if_neg (by omega), if_pos (by omega)]
    split at h
    · cases h
    · rw [if_neg (by omega), if_neg (by omega), ih h]

/-- Whether all code points from `c` to `c + n` are those of word characters, as far as one range
says so. -/
def isWordAlong (c n : Nat) : Bool :=
  (wordCharacters.sectionAlong? c (c + n)).any fun ranges => CodeRange.coverAlong ranges c n

theorem isWordCode_of_isWordAlong {c n i : Nat} (h : isWordAlong c n) (hi : i ≤ n) :
    isWordCode (c + i) = true := by
  obtain ⟨ranges, hranges, hcover⟩ := (Option.any_eq_true _ _).mp h
  rw [isWordCode, CodeTable.sectionOf_of_sectionAlong? hranges (by omega) (by omega)]
  exact CodeRange.cover_of_coverAlong hcover hi

/-- Whether code points are those of separators, and there are any. -/
def areSeparators (cs : List Nat) : Bool :=
  !cs.isEmpty && cs.all fun c => !isWordCode c

/-- Whether a run moves word characters only, or else a single separator to separators. -/
def CaseRun.keepsSeparators (r : CaseRun) : Bool :=
  isWordAlong r.first (r.step * r.count) || r.count = 0 && areSeparators r.images

/-- **What is evaluated of the tables**: every run passes, as a whole or else code point by code
point. -/
theorem caseTables_keepSeparators :
    (∀ r ∈ upperCase.rows, r.keepsSeparators || r.singles.all CaseRun.keepsSeparators) ∧
    ∀ r ∈ caseFold.rows, r.keepsSeparators || r.singles.all CaseRun.keepsSeparators := by
  decide +kernel

/-- A separator is moved to separators, by a mapping whose runs pass the check. -/
theorem CaseMapping.areSeparators_images {m : CaseMapping}
    (hm : ∀ r ∈ m.rows, r.keepsSeparators || r.singles.all CaseRun.keepsSeparators) {c : Nat}
    (hc : isWordCode c = false) : areSeparators (m.images c) := by
  have hlaw : ∀ r : CaseRun, r.keepsSeparators → ∀ i ≤ r.count,
      isWordCode (r.first + r.step * i) = false →
        areSeparators (r.images.map (· + r.step * i)) := by
    intro r hr i hi hsep
    rcases (Bool.or_eq_true _ _).mp hr with hword | hsingle
    · have hle : r.step * i ≤ r.step * r.count := Nat.mul_le_mul_left _ hi
      rw [isWordCode_of_isWordAlong hword hle] at hsep
      cases hsep
    · obtain ⟨hcount, himages⟩ := (Bool.and_eq_true _ _).mp hsingle
      obtain rfl : i = 0 := by
        have hcount := of_decide_eq_true hcount
        omega
      simpa using himages
  rcases CaseMapping.forall_images
    (Q := fun c ds => isWordCode c = false → areSeparators ds) hlaw hm c with hself | himages
  · rw [hself]
    simp [areSeparators, hc]
  · exact himages hc

theorem areSeparators_iff {cs : List Nat} :
    areSeparators cs ↔ cs ≠ [] ∧ ∀ c ∈ cs, isWordCode c = false := by
  simp [areSeparators]

theorem areSeparators_flatMap {f : Nat → List Nat}
    (hf : ∀ c, isWordCode c = false → areSeparators (f c)) {cs : List Nat}
    (hcs : areSeparators cs) : areSeparators (cs.flatMap f) := by
  obtain ⟨hne, hcs⟩ := areSeparators_iff.mp hcs
  refine areSeparators_iff.mpr ⟨?_, fun d hd => ?_⟩
  · obtain ⟨c, cs, rfl⟩ := List.exists_cons_of_ne_nil hne
    have hc := (areSeparators_iff.mp (hf c (hcs c List.mem_cons_self))).1
    rw [List.flatMap_cons]
    exact List.append_ne_nil_of_left_ne_nil hc _
  · obtain ⟨c, hc, hd⟩ := List.mem_flatMap.mp hd
    exact (areSeparators_iff.mp (hf c (hcs c hc))).2 d hd

/-- Separators are folded to separators. -/
theorem areSeparators_foldCodes {cs : List Nat} (hcs : areSeparators cs) :
    areSeparators (foldCodes cs) :=
  areSeparators_flatMap
    (fun _ => CaseMapping.areSeparators_images caseTables_keepSeparators.2)
    (areSeparators_flatMap
      (fun _ => CaseMapping.areSeparators_images caseTables_keepSeparators.1) hcs)

end Unicode

/-! ## Texts of separators -/

/-- Whether a text has no word characters. -/
def AreSeparators (p : List Char) : Prop :=
  ∀ c ∈ p, isSeparator c

instance (p : List Char) : Decidable (AreSeparators p) :=
  decidable_of_iff (p.all isSeparator) List.all_eq_true

section Texts

variable {p q : List Char}

theorem areSeparators_map_toNat (hne : p ≠ []) :
    Unicode.areSeparators (p.map Char.toNat) ↔ AreSeparators p := by
  simp [areSeparators_iff, hne, AreSeparators, isSeparator, isWord, isWordCode]

/-- **Folding keeps separators**: a text without word characters has none after folding, and is not
folded away. -/
theorem foldCase_separators (hne : p ≠ []) (h : AreSeparators p) :
    foldCase p ≠ [] ∧ AreSeparators (foldCase p) := by
  have hfold : Unicode.areSeparators ((foldCase p).map Char.toNat) := by
    rw [map_toNat_foldCase]
    exact areSeparators_foldCodes ((areSeparators_map_toNat hne).mpr h)
  have hne' : foldCase p ≠ [] := by
    simpa using (areSeparators_iff.mp hfold).1
  exact ⟨hne', (areSeparators_map_toNat hne').mp hfold⟩

/-- Separators in front of a text belong to none of its words. -/
theorem words_separators_append (h : AreSeparators p) (b : List Char) :
    words (p ++ b) = words b := by
  induction p with
  | nil => rfl
  | cons c p ih =>
    obtain ⟨hc, hp⟩ := List.forall_mem_cons.mp h
    rw [List.cons_append, words_cons_of_isSeparator hc, ih hp]

/-- Separators between two texts keep their words apart. -/
theorem words_append_separators (hne : p ≠ []) (h : AreSeparators p) (a b : List Char) :
    words (a ++ (p ++ b)) = words a ++ words b := by
  obtain ⟨c, p, rfl⟩ := List.exists_cons_of_ne_nil hne
  obtain ⟨hc, hp⟩ := List.forall_mem_cons.mp h
  rw [List.cons_append, words_append_separator hc, words_separators_append hp]

end Texts

/-! ## Keys -/

/-- Words of two texts: a blank stands between the last word of the former and the first of the
latter. -/
theorem unwords_append {ws vs : List (List Char)} (hws : ws ≠ []) (hvs : vs ≠ []) :
    unwords (ws ++ vs) = unwords ws ++ ' ' :: unwords vs := by
  obtain ⟨w, ws, rfl⟩ := List.exists_cons_of_ne_nil hws
  obtain ⟨v, vs, rfl⟩ := List.exists_cons_of_ne_nil hvs
  rw [List.cons_append, unwords_cons, unwords_cons, unwords_cons, List.flatMap_append,
    List.flatMap_cons]
  simp

/-- A key is empty if the folded text has no words. -/
theorem key_eq_nil_iff {cs : List Char} : key cs = [] ↔ words (foldCase cs) = [] := by
  rw [key_eq_unwords]
  refine ⟨fun h => ?_, fun h => by rw [h, unwords_nil]⟩
  cases hws : words (foldCase cs) with
  | nil => rfl
  | cons w ws =>
    have hne : w ≠ [] := (mem_words (hws ▸ List.mem_cons_self)).1
    rw [hws, unwords_cons] at h
    exact absurd (List.append_eq_nil_iff.mp h).1 hne

/-- Two keys with a blank between them, or one of them if the other is empty. -/
def joinKeys (s t : String) : String :=
  if s = "" then t else if t = "" then s else s ++ " " ++ t

theorem toList_normalize_eq_unwords (text : String) :
    (normalize text).toList = unwords (words (foldCase text.toList)) := by
  rw [toList_normalize, key_eq_unwords]

theorem normalize_eq_empty_iff {text : String} :
    normalize text = "" ↔ words (foldCase text.toList) = [] := by
  rw [← String.toList_inj, toList_normalize, ← key_eq_nil_iff, String.toList_empty]

/-- **The key of texts with separators between them** is made of their keys. -/
theorem normalize_append_of_separators {p : String} (hne : p ≠ "") (hp : AreSeparators p.toList)
    (a b : String) : normalize (a ++ p ++ b) = joinKeys (normalize a) (normalize b) := by
  have hne' : p.toList ≠ [] := by simpa using hne
  obtain ⟨hfold, hsep⟩ := foldCase_separators hne' hp
  have hwords : words (foldCase (a ++ p ++ b).toList) =
      words (foldCase a.toList) ++ words (foldCase b.toList) := by
    rw [String.toList_append, String.toList_append, List.append_assoc, foldCase_append,
      foldCase_append, words_append_separators hfold hsep]
  rw [← String.toList_inj, toList_normalize_eq_unwords, hwords, joinKeys]
  by_cases ha : words (foldCase a.toList) = []
  · rw [if_pos (normalize_eq_empty_iff.mpr ha), ha, List.nil_append, toList_normalize_eq_unwords]
  · rw [if_neg (mt normalize_eq_empty_iff.mp ha)]
    by_cases hb : words (foldCase b.toList) = []
    · rw [if_pos (normalize_eq_empty_iff.mpr hb), hb, List.append_nil, toList_normalize_eq_unwords]
    · rw [if_neg (mt normalize_eq_empty_iff.mp hb), unwords_append ha hb,
        ← toList_normalize_eq_unwords, ← toList_normalize_eq_unwords]
      simp

theorem joinKeys_empty (s : String) : joinKeys s "" = s := by
  by_cases h : s = "" <;> simp [joinKeys, h]

/-- Separators in front of a text do not change its key. -/
theorem normalize_leading_append {p : String} (hp : AreSeparators p.toList) (a : String) :
    normalize (p ++ a) = normalize a := by
  by_cases hne : p = ""
  · rw [hne, String.empty_append]
  · have h := normalize_append_of_separators hne hp "" a
    rwa [String.empty_append] at h

/-- Separators after a text do not change its key. -/
theorem normalize_append_trailing {p : String} (hp : AreSeparators p.toList) (a : String) :
    normalize (a ++ p) = normalize a := by
  by_cases hne : p = ""
  · rw [hne, String.append_empty]
  · have h := normalize_append_of_separators hne hp a ""
    rw [String.append_empty] at h
    exact h.trans (joinKeys_empty _)

/-- **Separators only separate words**: the key of two texts with separators between them is made of
the keys of the two. So the key of a text does not change when the text is surrounded by separators,
and it makes no difference which separators stand between two texts. -/
theorem normalize_append_separators :
    (∀ a b p : String, p ≠ "" → AreSeparators p.toList →
      normalize (a ++ p ++ b) = joinKeys (normalize a) (normalize b)) ∧
    (∀ a p q : String, AreSeparators p.toList → AreSeparators q.toList →
      normalize (p ++ a ++ q) = normalize a) ∧
    ∀ a b p q : String, p ≠ "" → q ≠ "" → AreSeparators p.toList → AreSeparators q.toList →
      normalize (a ++ p ++ b) = normalize (a ++ q ++ b) := by
  refine ⟨fun a b p hne hp => normalize_append_of_separators hne hp a b, ?_, ?_⟩
  · intro a p q hp hq
    rw [normalize_append_trailing hq, normalize_leading_append hp]
  · intro a b p q hnep hneq hp hq
    rw [normalize_append_of_separators hnep hp, normalize_append_of_separators hneq hq]

/-- Asterisks between two words, brackets around them, and a line feed in place of a hyphen. -/
theorem normalize_append_separators_of_markup :
    normalize ("Click" ++ "**, *" ++ "Straße") = "click strasse" ∧
    normalize ("[ **" ++ "Read more" ++ "**…]") = "read more" ∧
    normalize ("read" ++ "-" ++ "more") = normalize ("read" ++ "\n  " ++ "more") := by
  obtain ⟨hjoin, haround, hreplace⟩ := normalize_append_separators
  have hasterisks : AreSeparators "**, *".toList := by decide
  have hopening : AreSeparators "[ **".toList := by decide
  have hclosing : AreSeparators "**…]".toList := by decide
  have hhyphen : AreSeparators "-".toList := by decide
  have hbreak : AreSeparators "\n  ".toList := by decide
  refine ⟨?_, ?_, hreplace _ _ _ _ (by decide) (by decide) hhyphen hbreak⟩
  · rw [hjoin _ _ _ (by decide) hasterisks]
    decide +kernel
  · rw [haround _ _ _ hopening hclosing]
    decide +kernel

end DescriptiveLinks
