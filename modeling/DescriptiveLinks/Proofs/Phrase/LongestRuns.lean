import Mathlib.Data.List.Chain
import DescriptiveLinks.Proofs.Phrase.Separators

/-! # Keys from one pass over a text

Taking a key replaces runs of separators, collapses white space and trims. One pass over the folded
text gives the same: cut out the longest runs of word characters and put one blank between
neighbours. Which runs these are is said apart from the cutting, by where a run may begin and end.

* `FallsInto` relates a text to its longest runs of word characters, and `fallsInto_iff` says that
  the words of a text are these runs.
* `SingleSpaced` says of a text that its blanks are single and inside. Words with one blank between
  neighbours are such a text (`singleSpaced_unwords`), and such a text is put together from its words
  (`SingleSpaced.unwords_words`).
* `normalize_eq_unwords_longest_runs` is the pass that takes the place of the stages of a key. -/

namespace DescriptiveLinks

open Unicode

/-! ## Longest runs -/

/-- A text **falls into** runs of word characters, listed in order, with separators around them. A
run starts at the beginning of the text or after a separator, and ends before a separator or at the
end, so that it cannot be made longer. -/
inductive FallsInto : List Char → List (List Char) → Prop where
  /-- A text of separators has no run. -/
  | separators {p : List Char} (hp : AreSeparators p) : FallsInto p []
  /-- Separators, then a run, then a text that goes on with a separator unless it is empty. -/
  | run {p w cs : List Char} {ws : List (List Char)} (hp : AreSeparators p) (hne : w ≠ [])
      (hw : ∀ c ∈ w, isSeparator c = false) (hstart : startsWord cs = false)
      (hcs : FallsInto cs ws) : FallsInto (p ++ (w ++ cs)) (w :: ws)

/-- A text that does not begin with a word begins with a separator. -/
theorem isSeparator_of_not_startsWord {c : Char} {cs : List Char}
    (h : startsWord (c :: cs) = false) : isSeparator c := by
  simpa [startsWord, isSeparator] using h

namespace FallsInto

variable {c : Char} {cs w : List Char} {ws : List (List Char)}

/-- The runs are those that splitting at separators finds. -/
theorem words_eq (h : FallsInto cs ws) : words cs = ws := by
  induction h with
  | separators hp => simpa using words_separators_append hp []
  | @run p w cs ws hp hne hw hstart hcs ih =>
    rw [words_separators_append hp]
    cases cs with
    | nil => rw [List.append_nil, words_eq_singleton hne hw, ← ih, words_nil]
    | cons c cs =>
      have hc := isSeparator_of_not_startsWord hstart
      rw [words_append_separator hc, words_eq_singleton hne hw, ← words_cons_of_isSeparator hc, ih,
        List.singleton_append]

theorem cons_separator (hc : isSeparator c) (h : FallsInto cs ws) : FallsInto (c :: cs) ws := by
  cases h with
  | separators hp => exact .separators (List.forall_mem_cons.mpr ⟨hc, hp⟩)
  | @run p w cs ws hp hne hw hstart hcs =>
    exact .run (p := c :: p) (List.forall_mem_cons.mpr ⟨hc, hp⟩) hne hw hstart hcs

/-- A word character in front of a run lengthens it. -/
theorem cons_of_startsWord (hc : isSeparator c = false) (hstart : startsWord cs)
    (h : FallsInto cs (w :: ws)) : FallsInto (c :: cs) ((c :: w) :: ws) := by
  cases h with
  | @run p w cs ws hp hne hw hstart' hcs =>
    cases p with
    | nil =>
      exact .run (p := []) hp (List.cons_ne_nil c w) (List.forall_mem_cons.mpr ⟨hc, hw⟩) hstart' hcs
    | cons d p =>
      -- The text begins with a word, so that no separator comes before its first run.
      have hd : isSeparator d = false := by simpa [startsWord, isSeparator] using hstart
      rw [hp d List.mem_cons_self] at hd
      cases hd

/-- Every text falls into its words. -/
theorem words (cs : List Char) : FallsInto cs (words cs) := by
  induction cs with
  | nil => exact .separators fun _ hc => nomatch hc
  | cons c cs ih =>
    -- The same cases as for `mem_words`: drop a separator, lengthen the first word, begin one.
    cases hc : isSeparator c with
    | true =>
      rw [words_cons_of_isSeparator hc]
      exact ih.cons_separator hc
    | false =>
      cases hs : startsWord cs with
      | true =>
        obtain ⟨w, ws, hcs, hccs⟩ := words_cons_of_startsWord hc hs
        rw [hcs] at ih
        rw [hccs]
        exact ih.cons_of_startsWord hc hs
      | false =>
        rw [words_cons_of_not_startsWord hc hs]
        exact .run (p := []) (w := [c]) (fun _ hd => nomatch hd) (List.cons_ne_nil c [])
          (List.forall_mem_singleton.mpr hc) hs ih

end FallsInto

/-- **The words of a text are its longest runs** of word characters. -/
theorem fallsInto_iff {cs : List Char} {ws : List (List Char)} :
    FallsInto cs ws ↔ ws = words cs := by
  constructor
  · exact fun h => h.words_eq.symm
  · rintro rfl
    exact .words cs

/-! ## Single blanks -/

/-- A text is **single-spaced** when it has word characters and blanks only, no blank at either end,
and no two blanks side by side. -/
structure SingleSpaced (cs : List Char) : Prop where
  /-- Besides blanks there are word characters only. -/
  eq_blank_or_isWord : ∀ c ∈ cs, c = ' ' ∨ isWord c
  /-- The text does not begin with a blank. -/
  head?_ne : cs.head? ≠ some ' '
  /-- The text does not end with a blank. -/
  getLast?_ne : cs.getLast? ≠ some ' '
  /-- Of two neighbours one is no blank. -/
  isChain : cs.IsChain fun c d => ¬ (c = ' ' ∧ d = ' ')

/-- Whether texts are words: none is empty or has a separator in it. -/
def AreWords (ws : List (List Char)) : Prop :=
  ∀ w ∈ ws, w ≠ [] ∧ ∀ c ∈ w, isSeparator c = false

theorem areWords_words (cs : List Char) : AreWords (words cs) := fun _ hw =>
  ⟨(mem_words hw).1, fun c hc => ((mem_words hw).2 c hc).1⟩

theorem ne_blank {c : Char} (h : isSeparator c = false) : c ≠ ' ' := by
  rintro rfl
  cases h

namespace SingleSpaced

variable {w u : List Char}

/-- A word is single-spaced, having no blank. -/
theorem of_word (hw : ∀ c ∈ w, isSeparator c = false) : SingleSpaced w where
  eq_blank_or_isWord := fun c hc => .inr (by simpa [isSeparator] using hw c hc)
  head?_ne := fun h => ne_blank (hw _ (List.mem_of_mem_head? h)) rfl
  getLast?_ne := fun h => ne_blank (hw _ (List.mem_of_getLast? h)) rfl
  isChain := by
    rw [List.isChain_iff_forall_rel_of_append_cons_cons]
    rintro c d left right rfl ⟨hc, -⟩
    exact ne_blank (hw c (by simp)) hc

/-- A word and a blank may come before a single-spaced text. -/
theorem word_append_blank (hne : w ≠ []) (hw : ∀ c ∈ w, isSeparator c = false) (hu : u ≠ [])
    (h : SingleSpaced u) : SingleSpaced (w ++ ' ' :: u) := by
  have hword : SingleSpaced w := .of_word hw
  obtain ⟨d, u, rfl⟩ := List.exists_cons_of_ne_nil hu
  have hd : d ≠ ' ' := fun hd => h.head?_ne (by rw [hd, List.head?_cons])
  constructor
  · intro c hc
    rcases List.mem_append.mp hc with hc | hc
    · exact hword.eq_blank_or_isWord c hc
    · rcases List.mem_cons.mp hc with hc | hc
      · exact .inl hc
      · exact h.eq_blank_or_isWord c hc
  · rw [List.head?_append_of_ne_nil _ hne]
    exact hword.head?_ne
  · rw [List.getLast?_append, List.getLast?_cons_cons]
    simpa using h.getLast?_ne
  · -- The blank has a word character on its left and another on its right.
    rw [List.isChain_split, List.isChain_cons_cons]
    refine ⟨?_, fun hboth => hd hboth.2, h.isChain⟩
    refine List.isChain_append.mpr ⟨hword.isChain, .singleton _, fun c hc _ _ hboth => ?_⟩
    exact ne_blank (hw c (List.mem_of_getLast? hc)) hboth.1

end SingleSpaced

/-- Words with one blank between neighbours are a single-spaced text. -/
theorem singleSpaced_unwords {ws : List (List Char)} (h : AreWords ws) :
    SingleSpaced (unwords ws) := by
  induction ws with
  | nil => exact .of_word fun _ hc => nomatch hc
  | cons w ws ih =>
    obtain ⟨⟨hne, hw⟩, hws⟩ := List.forall_mem_cons.mp h
    cases ws with
    | nil =>
      rw [unwords, List.intercalate_singleton]
      exact .of_word hw
    | cons v vs =>
      have hvs : unwords (v :: vs) ≠ [] := by
        rw [unwords_cons]
        exact List.append_ne_nil_of_left_ne_nil (hws v List.mem_cons_self).1 _
      rw [← List.singleton_append, unwords_append (List.cons_ne_nil w []) (List.cons_ne_nil v vs),
        unwords, List.intercalate_singleton]
      exact .word_append_blank hne hw hvs (ih hws)

/-- A blank before every word is a blank before the words put together. -/
theorem flatMap_blank_eq {ws : List (List Char)} (h : ws ≠ []) :
    ws.flatMap (' ' :: ·) = ' ' :: unwords ws := by
  obtain ⟨w, ws, rfl⟩ := List.exists_cons_of_ne_nil h
  rw [unwords_cons, List.flatMap_cons, List.cons_append]

theorem words_ne_nil_of_isWord {c : Char} (hc : isSeparator c = false) (cs : List Char) :
    words (c :: cs) ≠ [] := by
  intro h
  have hkept := unwords_words_cons hc cs
  rw [h, unwords_nil] at hkept
  cases hkept

/-- The rest of a single-spaced text is what its words are put together to after the character in
front of it. -/
theorem continuation_eq_self {cs : List Char} (hmem : ∀ c ∈ cs, c = ' ' ∨ isWord c)
    (hlast : cs.getLast? ≠ some ' ') (hchain : cs.IsChain fun c d => ¬ (c = ' ' ∧ d = ' ')) :
    continuation cs = cs := by
  induction cs with
  | nil => rfl
  | cons c cs ih =>
    obtain ⟨hc, hcs⟩ := List.forall_mem_cons.mp hmem
    obtain ⟨hhead, htail⟩ := List.isChain_cons.mp hchain
    have hrest : continuation cs = cs := by
      refine ih hcs (fun h => hlast ?_) htail
      rw [List.getLast?_cons, h, Option.getD_some]
    rcases hc with rfl | hc
    · -- The blank is not the last character, and what follows it begins with a word.
      cases cs with
      | nil => exact absurd rfl hlast
      | cons d ds =>
        have hd : isWord d := (hcs d List.mem_cons_self).resolve_left fun hd => hhead d rfl ⟨rfl, hd⟩
        have hwords := words_ne_nil_of_isWord (by simpa [isSeparator] using hd) ds
        rw [continuation, if_pos (show startsWord (d :: ds) from hd)] at hrest
        rw [continuation_cons_of_isSeparator isSeparator_blank, flatMap_blank_eq hwords, hrest]
    · rw [continuation_cons_of_isWord (by simpa [isSeparator] using hc), hrest]

/-- A single-spaced text is put together from its words. -/
theorem SingleSpaced.unwords_words {cs : List Char} (h : SingleSpaced cs) :
    unwords (words cs) = cs := by
  cases cs with
  | nil => rfl
  | cons c cs =>
    have hc : isWord c := (h.eq_blank_or_isWord c List.mem_cons_self).resolve_left fun hc =>
      h.head?_ne (by rw [hc, List.head?_cons])
    have hself := continuation_eq_self h.eq_blank_or_isWord h.getLast?_ne h.isChain
    rwa [continuation, if_pos (show startsWord (c :: cs) from hc)] at hself

/-! ## Keys -/

/-- **One pass in place of the stages of a key**: the key of a text is made of the longest runs of
word characters of its folded form, with one blank between neighbours. So it has single blanks only,
and none at its ends, whatever stands between the words of the text. -/
theorem normalize_eq_unwords_longest_runs (text : String) :
    (∀ ws, FallsInto (foldCase text.toList) ws ↔ ws = words (foldCase text.toList)) ∧
      normalize text = String.ofList (unwords (words (foldCase text.toList))) ∧
      SingleSpaced (normalize text).toList := by
  have hkey := toList_normalize_eq_unwords text
  refine ⟨fun ws => fallsInto_iff, ?_, ?_⟩
  · rw [← hkey, String.ofList_toList]
  · rw [hkey]
    exact singleSpaced_unwords (areWords_words _)

end DescriptiveLinks
