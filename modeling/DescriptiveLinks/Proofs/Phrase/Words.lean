import DescriptiveLinks.Proofs.Unicode.Folding

/-! # Keys are words with blanks between them

The stages of `key` replace runs of separators, collapse white space and trim. Together they take a
folded text apart into its words and put one blank between neighbours, and a text of that form is
left alone by all of them.

* `words` lists the words of a text, and `unwords` puts words together.
* `key_eq_unwords` says what the stages do together.
* `normalize_normalize` is idempotence. -/

namespace DescriptiveLinks

open Unicode

/-! ## Words -/

/-- Whether a character separates words. -/
def isSeparator (c : Char) : Bool :=
  !isWord c

/-- The **words** of a text: its longest runs of word characters, in order. -/
def words (cs : List Char) : List (List Char) :=
  (cs.splitOnP isSeparator).filter fun w => !w.isEmpty

/-- Words with one blank between neighbours. -/
def unwords (ws : List (List Char)) : List Char :=
  [' '].intercalate ws

@[simp] theorem words_nil : words [] = [] := rfl

@[simp] theorem unwords_nil : unwords [] = [] := rfl

theorem unwords_cons (w : List Char) (ws : List (List Char)) :
    unwords (w :: ws) = w ++ ws.flatMap (' ' :: ·) := by
  induction ws generalizing w with
  | nil => simp [unwords]
  | cons v ws ih =>
    rw [unwords, List.intercalate_cons_cons, ← unwords, ih, List.flatMap_cons]
    simp

theorem isSeparator_blank : isSeparator ' ' = true := by
  decide

/-- A separator ends the word before it and belongs to none. -/
theorem words_append_separator {c : Char} (hc : isSeparator c) (cs ds : List Char) :
    words (cs ++ c :: ds) = words cs ++ words ds := by
  rw [words, List.splitOnP_append_cons cs ds hc, List.filter_append, ← words, ← words]

theorem words_cons_of_isSeparator {c : Char} (hc : isSeparator c) (cs : List Char) :
    words (c :: cs) = words cs := by
  rw [← List.nil_append (c :: cs), words_append_separator hc, words_nil, List.nil_append]

/-- A text of word characters is one word. -/
theorem words_eq_singleton {w : List Char} (hw : w ≠ []) (h : ∀ c ∈ w, isSeparator c = false) :
    words w = [w] := by
  rw [words, List.splitOnP_eq_singleton h]
  simp [hw]

/-- Whether a text begins with a word. -/
def startsWord (cs : List Char) : Bool :=
  cs.head?.any isWord

/-- A word character before a word lengthens it. -/
theorem words_cons_of_startsWord {c : Char} (hc : isSeparator c = false) {cs : List Char}
    (h : startsWord cs) : ∃ w ws, words cs = w :: ws ∧ words (c :: cs) = (c :: w) :: ws := by
  cases cs with
  | nil => cases h
  | cons d ds =>
    have hd : isSeparator d = false := by simpa [startsWord, isSeparator] using h
    obtain ⟨w, ws, hds⟩ := List.exists_cons_of_ne_nil (List.splitOnP_ne_nil isSeparator ds)
    refine ⟨d :: w, ws.filter fun w => !w.isEmpty, ?_, ?_⟩
    · simp [words, List.splitOnP_cons_eq_if_modifyHead, hd, hds]
    · simp [words, List.splitOnP_cons_eq_if_modifyHead, hc, hd, hds]

/-- A word character that no word follows directly is a word of its own. -/
theorem words_cons_of_not_startsWord {c : Char} (hc : isSeparator c = false) {cs : List Char}
    (h : startsWord cs = false) : words (c :: cs) = [c] :: words cs := by
  have hsingle : words [c] = [[c]] :=
    words_eq_singleton (List.cons_ne_nil c []) fun d hd => by rwa [List.mem_singleton.mp hd]
  cases cs with
  | nil => rw [hsingle, words_nil]
  | cons d ds =>
    have hd : isSeparator d := by simpa [startsWord, isSeparator] using h
    rw [← List.singleton_append, words_append_separator hd, hsingle, words_cons_of_isSeparator hd,
      List.singleton_append]

/-- The words of a text are not empty, and their characters are word characters of the text. -/
theorem mem_words {cs w : List Char} (h : w ∈ words cs) :
    w ≠ [] ∧ ∀ c ∈ w, isSeparator c = false ∧ c ∈ cs := by
  induction cs generalizing w with
  | nil => cases h
  | cons c cs ih =>
    have htail : ∀ v ∈ words cs, v ≠ [] ∧ ∀ d ∈ v, isSeparator d = false ∧ d ∈ c :: cs := by
      intro v hv
      obtain ⟨hne, hmem⟩ := ih hv
      exact ⟨hne, fun d hd => ⟨(hmem d hd).1, List.mem_cons_of_mem c (hmem d hd).2⟩⟩
    -- A separator drops out; a word character begins a word or lengthens the first one.
    cases hc : isSeparator c with
    | true =>
      rw [words_cons_of_isSeparator hc] at h
      exact htail w h
    | false =>
      cases hs : startsWord cs with
      | false =>
        rw [words_cons_of_not_startsWord hc hs, List.mem_cons] at h
        rcases h with rfl | h
        · simp [hc]
        · exact htail w h
      | true =>
        obtain ⟨v, vs, hcs, hccs⟩ := words_cons_of_startsWord hc hs
        rw [hcs] at htail
        rw [hccs, List.mem_cons] at h
        rcases h with rfl | h
        · refine ⟨List.cons_ne_nil c v, List.forall_mem_cons.mpr ⟨⟨hc, List.mem_cons_self⟩, ?_⟩⟩
          exact (htail v List.mem_cons_self).2
        · exact htail w (List.mem_cons_of_mem v h)

/-- Reading the words back from words put together. -/
theorem words_unwords {ws : List (List Char)}
    (h : ∀ w ∈ ws, w ≠ [] ∧ ∀ c ∈ w, isSeparator c = false) : words (unwords ws) = ws := by
  induction ws with
  | nil => rfl
  | cons w ws ih =>
    obtain ⟨⟨hne, hw⟩, hws⟩ := List.forall_mem_cons.mp h
    cases ws with
    | nil => rw [unwords, List.intercalate_singleton, words_eq_singleton hne hw]
    | cons v vs =>
      rw [unwords, List.intercalate_cons_cons, ← unwords, List.append_assoc, List.singleton_append,
        words_append_separator isSeparator_blank, words_eq_singleton hne hw, ih hws,
        List.singleton_append]

theorem mem_unwords {ws : List (List Char)} {c : Char} (h : c ∈ unwords ws) :
    c = ' ' ∨ ∃ w ∈ ws, c ∈ w := by
  cases ws with
  | nil => cases h
  | cons w ws =>
    rw [unwords_cons, List.mem_append, List.mem_flatMap] at h
    rcases h with h | ⟨v, hv, h⟩
    · exact .inr ⟨w, List.mem_cons_self, h⟩
    · rcases List.mem_cons.mp h with h | h
      · exact .inl h
      · exact .inr ⟨v, List.mem_cons_of_mem w hv, h⟩

/-! ## The stages of a key -/

theorem isWhiteSpace_eq_false {c : Char} (h : isSeparator c = false) : isWhiteSpace c = false := by
  cases hw : isWhiteSpace c with
  | false => rfl
  | true => simp [isSeparator, isWord_eq_false_of_isWhiteSpace hw] at h

theorem isWhiteSpace_blank : isWhiteSpace ' ' = true := by
  decide

/-- Removes white space from the right end of a text. -/
def trimRight (cs : List Char) : List Char :=
  (cs.reverse.dropWhile isWhiteSpace).reverse

theorem trim_eq (cs : List Char) : trim cs = trimRight (cs.dropWhile isWhiteSpace) := rfl

theorem trimRight_cons (c : Char) (cs : List Char) :
    trimRight (c :: cs)
      = if isWhiteSpace c ∧ trimRight cs = [] then [] else c :: trimRight cs := by
  rw [trimRight, List.reverse_cons, List.dropWhile_append]
  cases hc : isWhiteSpace c <;> cases hcs : cs.reverse.dropWhile isWhiteSpace <;>
    simp [trimRight, hc, hcs]

/-- What follows a word character in a text put together from words: the rest of its word, or the
other words, each after a blank. -/
def continuation (cs : List Char) : List Char :=
  if startsWord cs then unwords (words cs) else (words cs).flatMap (' ' :: ·)

theorem unwords_words_cons {c : Char} (hc : isSeparator c = false) (cs : List Char) :
    unwords (words (c :: cs)) = c :: continuation cs := by
  rw [continuation]
  split
  · next hs =>
    obtain ⟨w, ws, hcs, hccs⟩ := words_cons_of_startsWord hc hs
    rw [hcs, hccs, unwords_cons, unwords_cons, List.cons_append]
  · next hs =>
    rw [words_cons_of_not_startsWord hc (Bool.eq_false_iff.mpr hs), unwords_cons,
      List.singleton_append]

theorem continuation_cons_of_isWord {c : Char} (hc : isSeparator c = false) (cs : List Char) :
    continuation (c :: cs) = c :: continuation cs := by
  rw [continuation, if_pos (by simpa [startsWord, isSeparator] using hc), unwords_words_cons hc]

theorem continuation_cons_of_isSeparator {c : Char} (hc : isSeparator c) (cs : List Char) :
    continuation (c :: cs) = (words cs).flatMap (' ' :: ·) := by
  rw [continuation, if_neg (by simpa [startsWord, isSeparator] using hc),
    words_cons_of_isSeparator hc]

/-- The words of a text as `squeeze` leaves them, but for a blank at the right end: a run of
separators before the first word leaves a blank unless the run had begun before. -/
theorem trimRight_squeeze_go (inRun : Bool) (cs : List Char) :
    trimRight (squeeze.go isSeparator inRun cs)
      = if inRun then unwords (words cs) else continuation cs := by
  induction cs generalizing inRun with
  | nil => cases inRun <;> rfl
  | cons c cs ih =>
    rw [squeeze.go]
    cases hc : isSeparator c with
    | false =>
      rw [if_neg Bool.false_ne_true, trimRight_cons, isWhiteSpace_eq_false hc, ih,
        unwords_words_cons hc, continuation_cons_of_isWord hc, ite_self]
      simp
    | true =>
      rw [if_pos rfl, words_cons_of_isSeparator hc]
      cases inRun with
      | true => exact ih true
      | false =>
        -- The run leaves a blank, which is trimmed if no word follows.
        rw [if_neg Bool.false_ne_true, trimRight_cons, isWhiteSpace_blank, ih,
          continuation_cons_of_isSeparator hc]
        cases hws : words cs with
        | nil => simp
        | cons w ws =>
          have hne := (mem_words (hws ▸ List.mem_cons_self)).1
          simp [unwords_cons, hne]

/-- Nothing is left to collapse where runs of separators have become blanks. -/
theorem squeeze_go_isWhiteSpace (inRun : Bool) (cs : List Char) :
    squeeze.go isWhiteSpace inRun (squeeze.go isSeparator inRun cs)
      = squeeze.go isSeparator inRun cs := by
  induction cs generalizing inRun with
  | nil => rfl
  | cons c cs ih =>
    rw [squeeze.go]
    cases hc : isSeparator c with
    | false => simp [squeeze.go, isWhiteSpace_eq_false hc, ih]
    | true => cases inRun <;> simp [squeeze.go, isWhiteSpace_blank, ih]

theorem dropWhile_squeeze_go (cs : List Char) :
    (squeeze.go isSeparator true cs).dropWhile isWhiteSpace = squeeze.go isSeparator true cs := by
  induction cs with
  | nil => rfl
  | cons c cs ih =>
    rw [squeeze.go]
    cases hc : isSeparator c with
    | false => simp [isWhiteSpace_eq_false hc]
    | true => simpa using ih

/-- **The stages of a key together**: the words of the folded text with one blank between
neighbours. -/
theorem key_eq_unwords (cs : List Char) : key cs = unwords (words (foldCase cs)) := by
  have hkey : key cs = trim (squeeze isWhiteSpace (squeeze isSeparator (foldCase cs))) := rfl
  -- Collapsing white space changes nothing, and trimming on the left matters only at a separator.
  rw [hkey, squeeze, squeeze, squeeze_go_isWhiteSpace, trim_eq]
  cases foldCase cs with
  | nil => rfl
  | cons c ds =>
    cases hc : isSeparator c with
    | false =>
      have hdrop : (squeeze.go isSeparator false (c :: ds)).dropWhile isWhiteSpace
          = squeeze.go isSeparator false (c :: ds) := by
        simp [squeeze.go, hc, isWhiteSpace_eq_false hc]
      rw [hdrop, trimRight_squeeze_go, if_neg Bool.false_ne_true, continuation_cons_of_isWord hc,
        unwords_words_cons hc]
    | true =>
      have hdrop : (squeeze.go isSeparator false (c :: ds)).dropWhile isWhiteSpace
          = squeeze.go isSeparator true ds := by
        simp [squeeze.go, hc, isWhiteSpace_blank, dropWhile_squeeze_go]
      rw [hdrop, trimRight_squeeze_go, if_pos rfl, words_cons_of_isSeparator hc]

/-! ## Idempotence -/

theorem foldCase_eq_self {cs : List Char} (h : ∀ c ∈ cs, foldCase [c] = [c]) :
    foldCase cs = cs := by
  induction cs with
  | nil => rfl
  | cons c cs ih =>
    obtain ⟨hc, hcs⟩ := List.forall_mem_cons.mp h
    rw [← List.singleton_append, foldCase_append, hc, ih hcs]

theorem foldCase_blank : foldCase [' '] = [' '] := by
  decide

/-- Folding leaves a key alone: its characters are blanks and characters of a folded text. -/
theorem foldCase_key (cs : List Char) : foldCase (key cs) = key cs := by
  apply foldCase_eq_self
  intro c hc
  rw [key_eq_unwords] at hc
  rcases mem_unwords hc with rfl | ⟨w, hw, hcw⟩
  · exact foldCase_blank
  · exact foldCase_singleton_of_mem ((mem_words hw).2 c hcw).2

theorem key_key (cs : List Char) : key (key cs) = key cs := by
  rw [key_eq_unwords (key cs), foldCase_key, key_eq_unwords cs, words_unwords]
  intro w hw
  exact ⟨(mem_words hw).1, fun c hc => ((mem_words hw).2 c hc).1⟩

/-- **Keys are normalized**: taking the key of a key changes nothing. -/
theorem normalize_normalize (text : String) : normalize (normalize text) = normalize text := by
  rw [normalize, toList_normalize, key_key, ← normalize]

end DescriptiveLinks
