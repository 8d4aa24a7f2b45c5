import DescriptiveLinks.Proofs.Phrase.LongestRuns

/-! # The language of normalized phrases

Whether a phrase is normalized is asked by taking its key and comparing. The answer can be read off
the phrase itself: it is made of words with single blanks between them, and no character of a word
is changed by folding. Folding makes several characters of some, but what it makes of one character
is never made good by what it makes of another, since every character of a key is its own folded
form.

* `IsKeyCharacter` says of a character that it may stand in a word of a key.
* `isNormalized_iff_language` says which phrases are normalized, by their words and by their
  characters. -/

namespace DescriptiveLinks

open Unicode

/-! ## Characters of keys -/

/-- Whether a character may stand in a word of a key: it is a word character, and folding its upper
case gives the one character itself. -/
def IsKeyCharacter (c : Char) : Prop :=
  isWord c ∧ foldCase [c] = [c]

instance (c : Char) : Decidable (IsKeyCharacter c) :=
  inferInstanceAs (Decidable (_ ∧ _))

theorem IsKeyCharacter.isSeparator_eq_false {c : Char} (h : IsKeyCharacter c) :
    isSeparator c = false := by
  rw [isSeparator, h.1, Bool.not_true]

theorem isKeyCharacter_of_mem_words {cs w : List Char} {c : Char} (hw : w ∈ words (foldCase cs))
    (hc : c ∈ w) : IsKeyCharacter c := by
  obtain ⟨hword, hfold⟩ := (mem_words hw).2 c hc
  exact ⟨by simpa [isSeparator] using hword, foldCase_singleton_of_mem hfold⟩

/-! ## Normalized phrases -/

/-- Words of such characters, with single blanks between them, are their own key. -/
theorem key_unwords {ws : List (List Char)}
    (h : ∀ w ∈ ws, w ≠ [] ∧ ∀ c ∈ w, IsKeyCharacter c) : key (unwords ws) = unwords ws := by
  have hfold : foldCase (unwords ws) = unwords ws := by
    refine foldCase_eq_self fun c hc => ?_
    rcases mem_unwords hc with rfl | ⟨w, hw, hcw⟩
    · exact foldCase_blank
    · exact ((h w hw).2 c hcw).2
  rw [key_eq_unwords, hfold, words_unwords]
  exact fun w hw => ⟨(h w hw).1, fun c hc => ((h w hw).2 c hc).isSeparator_eq_false⟩

/-- A normalized phrase is the key of a text: its own. -/
theorem isNormalized_iff_key_eq {phrase : String} :
    IsNormalized phrase ↔ key phrase.toList = phrase.toList := by
  rw [IsNormalized, ← String.toList_inj, toList_normalize]

theorem isNormalized_iff_exists_words {phrase : String} :
    IsNormalized phrase ↔ ∃ ws : List (List Char), phrase.toList = unwords ws ∧
      ∀ w ∈ ws, w ≠ [] ∧ ∀ c ∈ w, IsKeyCharacter c := by
  rw [isNormalized_iff_key_eq]
  constructor
  · intro h
    refine ⟨words (foldCase phrase.toList), by rw [← key_eq_unwords, h], fun w hw => ?_⟩
    exact ⟨(mem_words hw).1, fun c hc => isKeyCharacter_of_mem_words hw hc⟩
  · rintro ⟨ws, hphrase, hws⟩
    rw [hphrase, key_unwords hws]

/-- Words of key characters with single blanks between them are the single-spaced texts whose
characters are blanks and key characters. -/
theorem exists_words_iff_singleSpaced {cs : List Char} :
    (∃ ws : List (List Char), cs = unwords ws ∧ ∀ w ∈ ws, w ≠ [] ∧ ∀ c ∈ w, IsKeyCharacter c) ↔
      SingleSpaced cs ∧ ∀ c ∈ cs, c ≠ ' ' → IsKeyCharacter c := by
  constructor
  · rintro ⟨ws, rfl, hws⟩
    refine ⟨singleSpaced_unwords fun w hw => ⟨(hws w hw).1, fun c hc =>
      ((hws w hw).2 c hc).isSeparator_eq_false⟩, fun c hc hblank => ?_⟩
    obtain ⟨w, hw, hcw⟩ := (mem_unwords hc).resolve_left hblank
    exact (hws w hw).2 c hcw
  · rintro ⟨hspaced, hchars⟩
    refine ⟨words cs, hspaced.unwords_words.symm, fun w hw => ?_⟩
    obtain ⟨hne, hmem⟩ := mem_words hw
    exact ⟨hne, fun c hc => hchars c (hmem c hc).2 (ne_blank (hmem c hc).1)⟩

/-- **The language of normalized phrases**: words of key characters, none of them empty, with one
blank between neighbours and none at the ends; without a word that is the empty phrase. Character by
character: the phrase is single-spaced, and every character but its blanks is a key character. -/
theorem isNormalized_iff_language (phrase : String) :
    (IsNormalized phrase ↔ ∃ ws : List (List Char), phrase.toList = unwords ws ∧
      ∀ w ∈ ws, w ≠ [] ∧ ∀ c ∈ w, IsKeyCharacter c) ∧
    (IsNormalized phrase ↔
      SingleSpaced phrase.toList ∧ ∀ c ∈ phrase.toList, c ≠ ' ' → IsKeyCharacter c) :=
  ⟨isNormalized_iff_exists_words,
    isNormalized_iff_exists_words.trans exists_words_iff_singleSpaced⟩

/-- Two words of small letters and a digit, and a sharp s, which folds to two letters. -/
theorem isNormalized_iff_language_of_step_two :
    IsNormalized "étape 2" ∧ ¬ IsNormalized "straße" := by
  constructor
  · have hkey : IsKeyCharacter 'é' ∧ IsKeyCharacter 't' ∧ IsKeyCharacter 'a' ∧
        IsKeyCharacter 'p' ∧ IsKeyCharacter 'e' ∧ IsKeyCharacter '2' := by
      decide +kernel
    refine (isNormalized_iff_language "étape 2").1.mpr
      ⟨[['é', 't', 'a', 'p', 'e'], ['2']], rfl, ?_⟩
    simpa [and_assoc] using hkey
  · rw [(isNormalized_iff_language "straße").2]
    rintro ⟨-, hchars⟩
    have hsharp : ¬ IsKeyCharacter 'ß' := by decide +kernel
    exact hsharp (hchars 'ß' (by decide) (by decide))

end DescriptiveLinks
