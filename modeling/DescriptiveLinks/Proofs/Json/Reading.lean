import DescriptiveLinks.Proofs.Json.Numbers
import DescriptiveLinks.Proofs.Json.Strings

/-! # Reading follows the grammar

A reader reads a relation between texts and what they write if it succeeds on exactly these texts,
after white space and in front of a rest where numbers end. Items between brackets inherit this from
one item, members from their values, and values of one level more from those inside them.

* `Json.Reader.Reads` is that property, and `Json.valueReader_reads` shows it of values.
* `Json.parse_eq_ok_iff` and `Json.decode_eq_ok_iff` say what whole texts give. -/

namespace DescriptiveLinks.Json

/-! ## White space -/

section Blank

variable {b s t : List Char} {c : Char}

theorem isBlank_iff : isBlank c ↔ c = ' ' ∨ c = '\t' ∨ c = '\n' ∨ c = '\r' := by
  simp [isBlank, or_assoc]

theorem skipBlank_append (hb : IsBlank b) (s : List Char) : skipBlank (b ++ s) = skipBlank s :=
  List.dropWhile_append_of_pos hb

theorem skipBlank_cons (hc : isBlank c = false) (s : List Char) : skipBlank (c :: s) = c :: s :=
  List.dropWhile_cons_of_neg (by simp [hc])

theorem skipBlank_append_cons (hb : IsBlank b) (hc : isBlank c = false) (s : List Char) :
    skipBlank (b ++ c :: s) = c :: s := by
  rw [skipBlank_append hb, skipBlank_cons hc]

/-- What is skipped is white space. -/
theorem exists_blank_append (h : skipBlank s = t) : ∃ b, IsBlank b ∧ s = b ++ t := by
  refine ⟨s.takeWhile isBlank, List.all_eq_true.mp List.all_takeWhile, ?_⟩
  rw [← h]
  exact List.takeWhile_append_dropWhile.symm

theorem skipBlank_eq_nil_iff : skipBlank s = [] ↔ IsBlank s := by
  constructor
  · intro h
    obtain ⟨b, hb, rfl⟩ := exists_blank_append h
    rwa [List.append_nil]
  · intro h
    have hskip := skipBlank_append h []
    rwa [List.append_nil] at hskip

/-- Numbers end at white space, and where they end after it. -/
theorem IsBlank.closes_append (hb : IsBlank b) (h : Closes s) : Closes (b ++ s) := by
  cases b with
  | nil => exact h
  | cons c b =>
    refine closes_cons _ ?_
    obtain rfl | rfl | rfl | rfl := isBlank_iff.mp (hb c List.mem_cons_self) <;> decide

theorem IsBlank.closes (hb : IsBlank b) : Closes b := by
  have hcloses := hb.closes_append closes_nil
  rwa [List.append_nil] at hcloses

end Blank

/-! ## Readers -/

variable {α : Type} {W : List Char → α → Prop}

/-- Whether a value or a member may begin with a character: it is neither white space nor a closing
bracket. -/
def Opens (c : Char) : Prop :=
  isBlank c = false ∧ c ≠ ']' ∧ c ≠ '\x7d'

instance (c : Char) : Decidable (Opens c) :=
  inferInstanceAs (Decidable (_ ∧ _))

/-- Whether a reader **reads** the texts that `W` gives. -/
structure Reader.Reads (r : Reader α) (W : List Char → α → Prop) : Prop where
  /-- What is read is what a text writes, after white space. -/
  sound : ∀ {s rest a}, r.read s = .ok (a, rest) → ∃ b t, IsBlank b ∧ W t a ∧ s = b ++ (t ++ rest)
  /-- A text is read after white space, if a number would end where the rest begins. -/
  complete : ∀ {b t rest a}, IsBlank b → W t a → Closes rest →
    r.read (b ++ (t ++ rest)) = .ok (a, rest)
  /-- Texts are not empty, and begin as values do. -/
  starts : ∀ {t a}, W t a → ∃ c u, t = c :: u ∧ Opens c

/-! ## Items between brackets -/

section Items

variable {br : Brackets} {item : Reader α} {done as : List α} {a : α} {s t u rest : List Char}

theorem readItems_of_closing (hitem : item.read s = .ok (a, t))
    (hclosing : skipBlank t = br.closing :: rest) :
    readItems br item done s = .ok ((a :: done).reverse, rest) := by
  rw [readItems]
  split
  · next h => cases hitem.symm.trans h
  · next h =>
    obtain ⟨rfl, rfl⟩ := Prod.mk.inj (Except.ok.inj (hitem.symm.trans h))
    split
    · next h => cases hclosing.symm.trans h
    · next h =>
      obtain ⟨rfl, rfl⟩ := List.cons.inj (hclosing.symm.trans h)
      exact if_pos rfl

theorem readItems_of_comma (done : List α) {c : Char} (hitem : item.read s = .ok (a, t))
    (hcomma : skipBlank t = ',' :: u) (hne : br.closing ≠ ',') (hopening : skipBlank u = c :: rest)
    (hc : c ≠ br.closing) : readItems br item done s = readItems br item (a :: done) u := by
  rw [readItems]
  split
  · next h => cases hitem.symm.trans h
  · next h =>
    obtain ⟨rfl, rfl⟩ := Prod.mk.inj (Except.ok.inj (hitem.symm.trans h))
    split
    · next h => cases hcomma.symm.trans h
    · next h =>
      obtain ⟨rfl, rfl⟩ := List.cons.inj (hcomma.symm.trans h)
      rw [if_neg hne.symm, if_pos rfl, hopening]
      exact if_neg hc

/-- What is between brackets begins as its first item does. -/
theorem ItemsText.exists_opens (hr : item.Reads W) (h : ItemsText W t as) :
    ∃ b c u, t = b ++ c :: u ∧ IsBlank b ∧ Opens c := by
  cases h with
  | @last b t b' a hb h hb' =>
    obtain ⟨c, u, rfl, hc⟩ := hr.starts h
    exact ⟨b, c, u ++ b', rfl, hb, hc⟩
  | @cons b t b' u a as hb h hb' hs =>
    obtain ⟨c, v, rfl, hc⟩ := hr.starts h
    exact ⟨b, c, v ++ (b' ++ ',' :: u), rfl, hb, hc⟩

/-- The closing brackets. -/
def Brackets.IsClosed (br : Brackets) : Prop :=
  br.closing = ']' ∨ br.closing = '\x7d'

theorem Brackets.IsClosed.closes (hbr : br.IsClosed) (rest : List Char) :
    Closes (br.closing :: rest) := by
  refine closes_cons _ ?_
  rcases hbr with h | h <;> rw [h] <;> decide

theorem Brackets.IsClosed.isBlank_eq_false (hbr : br.IsClosed) : isBlank br.closing = false := by
  rcases hbr with h | h <;> rw [h] <;> decide

theorem Opens.ne_closing {c : Char} (h : Opens c) (hbr : br.IsClosed) : c ≠ br.closing := by
  rcases hbr with hbr | hbr <;> rw [hbr]
  · exact h.2.1
  · exact h.2.2

/-- **Items are read** up to the closing bracket, after those that have been read. -/
theorem readItems_eq_ok_iff (hr : item.Reads W) (hbr : br.IsClosed) :
    readItems br item done s = .ok (as, rest) ↔
      ∃ t bs, ItemsText W t bs ∧ as = done.reverse ++ bs ∧ s = t ++ br.closing :: rest := by
  constructor
  · intro h
    -- Two cases succeed: an item before the closing bracket, and one before a comma.
    fun_induction readItems br item done s with
    | case1 | case2 | case4 | case5 | case7 => cases h
    | case3 done s a t hitem u hskip =>
      obtain ⟨rfl, rfl⟩ := Prod.mk.inj (Except.ok.inj h)
      obtain ⟨b, t', hb, ht', rfl⟩ := hr.sound hitem
      obtain ⟨b', hb', rfl⟩ := exists_blank_append hskip
      refine ⟨b ++ (t' ++ b'), [a], .last hb ht' hb', ?_, ?_⟩
      · rw [List.reverse_cons]
      · simp only [List.append_assoc]
    | case6 done s a t hitem u d v hopening hd hskip hcomma ih =>
      obtain ⟨b, t', hb, ht', rfl⟩ := hr.sound hitem
      obtain ⟨b', hb', rfl⟩ := exists_blank_append hskip
      obtain ⟨t, bs, hbs, rfl, rfl⟩ := ih h
      refine ⟨b ++ (t' ++ (b' ++ ',' :: t)), a :: bs, .cons hb ht' hb' hbs, ?_, ?_⟩
      · rw [List.reverse_cons, List.append_assoc, List.singleton_append]
      · simp only [List.append_assoc, List.cons_append]
  · rintro ⟨t, bs, hbs, rfl, rfl⟩
    induction hbs generalizing done with
    | @last b t b' a hb h hb' =>
      have hitem := hr.complete hb h (hb'.closes_append (hbr.closes rest))
      rw [List.append_assoc, List.append_assoc, readItems_of_closing hitem
        (skipBlank_append_cons hb' hbr.isBlank_eq_false rest), List.reverse_cons]
    | @cons b t b' u a as hb h hb' hs ih =>
      have hcloses : Closes (b' ++ ',' :: (u ++ br.closing :: rest)) :=
        hb'.closes_append (closes_cons _ (by decide))
      have hcomma : skipBlank (b' ++ ',' :: (u ++ br.closing :: rest)) =
          ',' :: (u ++ br.closing :: rest) :=
        skipBlank_append_cons hb' (by decide) _
      have hne : br.closing ≠ ',' := by
        rcases hbr with hbr | hbr <;> rw [hbr] <;> decide
      -- The next item begins with an opening character, so the comma is no trailing one.
      obtain ⟨b₁, c, v, rfl, hb₁, hc⟩ := hs.exists_opens hr
      have hopening : skipBlank ((b₁ ++ c :: v) ++ br.closing :: rest) =
          c :: (v ++ br.closing :: rest) := by
        rw [List.append_assoc, List.cons_append, skipBlank_append_cons hb₁ hc.1]
      have hread := readItems_of_comma done (hr.complete hb h hcloses) hcomma hne hopening
        (hc.ne_closing hbr)
      have happend : b ++ (t ++ (b' ++ ',' :: (b₁ ++ c :: v))) ++ br.closing :: rest =
          b ++ (t ++ (b' ++ ',' :: (b₁ ++ c :: v ++ br.closing :: rest))) := by
        simp only [List.append_assoc, List.cons_append]
      rw [happend, hread, ih, List.reverse_cons, List.append_assoc, List.singleton_append]

/-- **A list is read** up to the closing bracket. -/
theorem readList_eq_ok_iff (hr : item.Reads W) (hbr : br.IsClosed) :
    readList br item s = .ok (as, rest) ↔ ∃ t, ListText W t as ∧ s = t ++ br.closing :: rest := by
  constructor
  · intro h
    rw [readList] at h
    split at h
    · cases h
    · next c t hskip =>
      split at h
      · next hc =>
        obtain ⟨rfl, rfl⟩ := Prod.mk.inj (Except.ok.inj h)
        obtain ⟨b, hb, rfl⟩ := exists_blank_append hskip
        exact ⟨b, .none hb, by rw [hc]⟩
      · obtain ⟨t, bs, hbs, rfl, rfl⟩ := (readItems_eq_ok_iff hr hbr).mp h
        exact ⟨t, .items hbs, rfl⟩
  · rintro ⟨t, h, rfl⟩
    cases h with
    | none hb =>
      rw [readList, skipBlank_append_cons hb hbr.isBlank_eq_false]
      exact if_pos rfl
    | items h =>
      have hread : readItems br item [] (t ++ br.closing :: rest) = .ok (as, rest) :=
        (readItems_eq_ok_iff hr hbr).mpr ⟨t, as, h, rfl, rfl⟩
      obtain ⟨b, c, u, rfl, hb, hc⟩ := h.exists_opens hr
      rw [List.append_assoc, List.cons_append] at hread ⊢
      rw [readList, skipBlank_append_cons hb hc.1]
      exact (if_neg (hc.ne_closing hbr)).trans hread

end Items

/-! ## Members -/

section Members

variable {value : Reader α} {s rest : List Char}

theorem readColon_eq_ok_iff : readColon s = .ok rest ↔ ∃ b, IsBlank b ∧ s = b ++ ':' :: rest := by
  constructor
  · intro h
    unfold readColon at h
    split at h
    · cases h
    · next hskip =>
      cases h
      exact exists_blank_append hskip
    · cases h
  · rintro ⟨b, hb, rfl⟩
    rw [readColon, skipBlank_append_cons hb (by decide)]
    rfl

/-- A member is read if its value is. -/
theorem memberReader_reads (hr : value.Reads W) : (memberReader value).Reads (MemberText W) where
  sound {s rest m} h := by
    change readMember value s = .ok (m, rest) at h
    -- The key, the colon and the value follow each other, each in front of the next one.
    unfold readMember at h
    split at h
    · next t hskip =>
      obtain ⟨⟨key, t₁⟩, hkey, h⟩ := bind_eq_ok_iff.mp h
      obtain ⟨t₂, hcolon, h⟩ := bind_eq_ok_iff.mp h
      obtain ⟨⟨a, rest'⟩, hvalue, h⟩ := bind_eq_ok_iff.mp h
      obtain ⟨rfl, rfl⟩ := Prod.mk.inj (pure_eq_ok_iff.mp h)
      obtain ⟨b, hb, rfl⟩ := exists_blank_append hskip
      obtain ⟨k, hk, rfl⟩ := readString_eq_ok_iff.mp hkey
      obtain ⟨b₁, hb₁, rfl⟩ := readColon_eq_ok_iff.mp hcolon
      obtain ⟨b₂, u, hb₂, hu, rfl⟩ := hr.sound hvalue
      refine ⟨b, _, hb, .pair hk hb₁ hb₂ hu, ?_⟩
      simp only [List.append_assoc, List.cons_append]
    · cases h
  complete {b t rest m} hb h hrest := by
    change readMember value (b ++ (t ++ rest)) = .ok (m, rest)
    cases h with
    | @pair t b₁ b₂ u key a hkey hb₁ hb₂ hu =>
      have hstring := hkey
      cases hkey with
      | @quoted t _ _ =>
        have hread : readString ((t ++ ['"']) ++ (b₁ ++ ':' :: (b₂ ++ (u ++ rest)))) =
            .ok (key, b₁ ++ ':' :: (b₂ ++ (u ++ rest))) :=
          readString_eq_ok_iff.mpr ⟨_, hstring, rfl⟩
        have hcolon : readColon (b₁ ++ ':' :: (b₂ ++ (u ++ rest))) = .ok (b₂ ++ (u ++ rest)) :=
          readColon_eq_ok_iff.mpr ⟨b₁, hb₁, rfl⟩
        simp only [List.append_assoc, List.cons_append] at hread ⊢
        rw [readMember, skipBlank_append_cons hb (by decide)]
        refine bind_eq_ok_iff.mpr ⟨_, hread, bind_eq_ok_iff.mpr ⟨_, hcolon, ?_⟩⟩
        exact bind_eq_ok_iff.mpr ⟨_, hr.complete hb₂ hu hrest, rfl⟩
  starts h := by
    cases h with
    | pair hkey hb hb' hu =>
      cases hkey with
      | quoted h => exact ⟨'"', _, rfl, by decide⟩

end Members

/-! ## Values -/

section Values

variable {s t rest : List Char} {v : Value}

theorem readWord_eq_ok_iff {word : List Char} {w : Value} :
    readWord word w s = .ok (v, rest) ↔ v = w ∧ s = word ++ rest := by
  induction word generalizing s with
  | nil => simp [readWord, eq_comm]
  | cons x xs ih =>
    cases s with
    | nil => simp [readWord]
    | cons c cs =>
      rw [readWord]
      by_cases hc : c = x
      · rw [if_pos hc, ih, hc]
        simp
      · simp [hc]

/-- A number begins with a minus sign or a digit. -/
theorem NumberText.exists_cons {n : Number} (h : NumberText t n) :
    ∃ c u, t = c :: u ∧ (c = '-' ∨ c.isDigit) := by
  obtain ⟨p, hp, -⟩ := numberText_iff.mp h
  cases hp with
  | positive h =>
    obtain ⟨c, u, rfl, hc⟩ := h.exists_cons
    exact ⟨c, u, rfl, .inr hc⟩
  | negative h => exact ⟨'-', _, rfl, .inl rfl⟩

/-- What `readOpened` reads behind an opening bracket. -/
theorem readOpened_eq_ok_iff {value : Reader Value} {W : List Char → Value → Prop}
    (hr : value.Reads W) {c : Char} (hc : c = '[' ∨ c = '\x7b') :
    readOpened (some value) c s = .ok (v, rest) ↔
      ∃ t, ContainerText W (c :: t) v ∧ s = t ++ rest := by
  rw [readOpened]
  dsimp only
  rcases hc with rfl | rfl
  · rw [if_pos rfl, bind_eq_ok_iff]
    constructor
    · rintro ⟨⟨items, rest'⟩, hread, h⟩
      obtain ⟨rfl, rfl⟩ := Prod.mk.inj (pure_eq_ok_iff.mp h)
      obtain ⟨t, ht, rfl⟩ := (readList_eq_ok_iff hr (.inl rfl)).mp hread
      refine ⟨t ++ [']'], .array ht, ?_⟩
      rw [List.append_assoc]
      rfl
    · rintro ⟨_, h, rfl⟩
      cases h with
      | @array t items h =>
        refine ⟨(items, rest), (readList_eq_ok_iff hr (.inl rfl)).mpr ⟨t, h, ?_⟩, rfl⟩
        rw [List.append_assoc]
        rfl
  · rw [if_neg (by decide), bind_eq_ok_iff]
    constructor
    · rintro ⟨⟨members, rest'⟩, hread, h⟩
      obtain ⟨rfl, rfl⟩ := Prod.mk.inj (pure_eq_ok_iff.mp h)
      obtain ⟨t, ht, rfl⟩ := (readList_eq_ok_iff (memberReader_reads hr) (.inr rfl)).mp hread
      refine ⟨t ++ ['\x7d'], .object ht, ?_⟩
      rw [List.append_assoc]
      rfl
    · rintro ⟨_, h, rfl⟩
      cases h with
      | @object t members h =>
        refine ⟨(members, rest), ?_, rfl⟩
        refine (readList_eq_ok_iff (memberReader_reads hr) (.inr rfl)).mpr ⟨t, h, ?_⟩
        rw [List.append_assoc]
        rfl

variable {inner : Option (Reader Value)}

theorem readValue_append {b : List Char} (hb : IsBlank b) (s : List Char) :
    readValue inner (b ++ s) = readValue inner s := by
  rw [readValue, readValue, skipBlank_append hb]

theorem ne_of_isDigit {c d : Char} (hc : c.isDigit) (hd : d.isDigit = false) : c ≠ d := by
  rintro rfl
  cases hc.symm.trans hd

theorem opens_of_isDigit {c : Char} (hc : c.isDigit) : Opens c := by
  refine ⟨?_, ne_of_isDigit hc rfl, ne_of_isDigit hc rfl⟩
  rw [Bool.eq_false_iff]
  intro hblank
  obtain rfl | rfl | rfl | rfl := isBlank_iff.mp hblank <;> cases hc

/-- What begins like a number is read as one. -/
theorem readValue_number {c : Char} (hc : c = '-' ∨ c.isDigit) {n : Number}
    (h : readNumber (c :: s) = .ok (n, rest)) :
    readValue inner (c :: s) = .ok (.number n, rest) := by
  rcases hc with rfl | hc
  · exact bind_eq_ok_iff.mpr ⟨_, h, rfl⟩
  · have hbracket : ¬ (c = '[' ∨ c = '\x7b') :=
      not_or.mpr ⟨ne_of_isDigit hc rfl, ne_of_isDigit hc rfl⟩
    rw [readValue, skipBlank_cons (opens_of_isDigit hc).1]
    dsimp only
    rw [if_neg (ne_of_isDigit hc rfl), if_neg (ne_of_isDigit hc rfl),
      if_neg (ne_of_isDigit hc rfl), if_neg (ne_of_isDigit hc rfl), if_neg hbracket,
      if_pos (.inr hc)]
    exact bind_eq_ok_iff.mpr ⟨_, h, rfl⟩

theorem ScalarText.exists_opens (h : ScalarText t v) : ∃ c u, t = c :: u ∧ Opens c := by
  cases h with
  | null => exact ⟨'n', _, rfl, by decide⟩
  | true => exact ⟨'t', _, rfl, by decide⟩
  | false => exact ⟨'f', _, rfl, by decide⟩
  | number h =>
    obtain ⟨c, u, rfl, hc⟩ := h.exists_cons
    refine ⟨c, u, rfl, ?_⟩
    rcases hc with rfl | hc
    · decide
    · exact opens_of_isDigit hc
  | string h =>
    cases h with
    | quoted h => exact ⟨'"', _, rfl, by decide⟩

theorem readValue_of_scalarText (h : ScalarText t v) (hrest : Closes rest) :
    readValue inner (t ++ rest) = .ok (v, rest) := by
  cases h with
  | null => exact readWord_eq_ok_iff.mpr ⟨rfl, rfl⟩
  | true => exact readWord_eq_ok_iff.mpr ⟨rfl, rfl⟩
  | false => exact readWord_eq_ok_iff.mpr ⟨rfl, rfl⟩
  | number h =>
    have hread := readNumber_complete h hrest
    obtain ⟨c, u, rfl, hc⟩ := h.exists_cons
    exact readValue_number hc hread
  | @string _ s h =>
    have hstring := h
    cases h with
    | @quoted t _ h =>
      exact bind_eq_ok_iff.mpr ⟨(s, rest), readString_eq_ok_iff.mpr ⟨_, hstring, rfl⟩, rfl⟩

/-- **A value is read** if what stands between its brackets is. -/
theorem readValue_reads {C : List Char → Value → Prop}
    (hopened : ∀ {c s v rest}, (c = '[' ∨ c = '\x7b') →
      (readOpened inner c s = .ok (v, rest) ↔ ∃ t, C (c :: t) v ∧ s = t ++ rest))
    (hstarts : ∀ {t v}, C t v → ∃ c u, t = c :: u ∧ (c = '[' ∨ c = '\x7b')) :
    Reader.Reads ⟨readValue inner, length_readValue⟩ (fun t v => ScalarText t v ∨ C t v) where
  sound {s rest v} h := by
    change readValue inner s = .ok (v, rest) at h
    unfold readValue at h
    split at h
    · cases h
    next c t hskip =>
    obtain ⟨b, hb, rfl⟩ := exists_blank_append hskip
    -- The first character decides what is read.
    split at h
    · next hc =>
      obtain ⟨rfl, rfl⟩ := readWord_eq_ok_iff.mp h
      exact ⟨b, _, hb, .inl .null, by rw [hc]; rfl⟩
    split at h
    · next hc =>
      obtain ⟨rfl, rfl⟩ := readWord_eq_ok_iff.mp h
      exact ⟨b, _, hb, .inl .true, by rw [hc]; rfl⟩
    split at h
    · next hc =>
      obtain ⟨rfl, rfl⟩ := readWord_eq_ok_iff.mp h
      exact ⟨b, _, hb, .inl .false, by rw [hc]; rfl⟩
    split at h
    · next hc =>
      obtain ⟨⟨text, rest'⟩, hread, h⟩ := bind_eq_ok_iff.mp h
      obtain ⟨rfl, rfl⟩ := Prod.mk.inj (pure_eq_ok_iff.mp h)
      obtain ⟨u, hu, rfl⟩ := readString_eq_ok_iff.mp hread
      exact ⟨b, _, hb, .inl (.string hu), by rw [hc]; rfl⟩
    split at h
    · next hc =>
      obtain ⟨u, hu, rfl⟩ := (hopened hc).mp h
      exact ⟨b, _, hb, .inr hu, rfl⟩
    split at h
    · obtain ⟨⟨n, rest'⟩, hread, h⟩ := bind_eq_ok_iff.mp h
      obtain ⟨rfl, rfl⟩ := Prod.mk.inj (pure_eq_ok_iff.mp h)
      obtain ⟨u, hu, heq⟩ := readNumber_sound hread
      exact ⟨b, u, hb, .inl (.number hu), by rw [heq]⟩
    · cases h
  complete {b t rest v} hb h hrest := by
    change readValue inner (b ++ (t ++ rest)) = .ok (v, rest)
    rw [readValue_append hb]
    rcases h with h | h
    · exact readValue_of_scalarText h hrest
    · obtain ⟨c, u, rfl, hc⟩ := hstarts h
      have hread : readOpened inner c (u ++ rest) = .ok (v, rest) := (hopened hc).mpr ⟨u, h, rfl⟩
      rcases hc with rfl | rfl <;> exact hread
  starts {t v} h := by
    rcases h with h | h
    · exact h.exists_opens
    · obtain ⟨c, u, rfl, hc⟩ := hstarts h
      refine ⟨c, u, rfl, ?_⟩
      rcases hc with rfl | rfl <;> decide

/-- **Values are read**, as many levels of them as may be open. -/
theorem valueReader_reads (depth : Nat) : (valueReader depth).Reads (ValueText depth) := by
  induction depth with
  | zero =>
    -- No bracket may be opened, so only scalars are left.
    have htext : ValueText 0 = fun t v => ScalarText t v ∨ False := by
      funext t v
      rw [ValueText, or_false]
    rw [htext]
    refine readValue_reads (fun _ => ?_) False.elim
    simp [readOpened]
  | succ depth ih =>
    refine readValue_reads (fun hc => readOpened_eq_ok_iff ih hc) fun h => ?_
    cases h with
    | array h => exact ⟨'[', _, rfl, .inl rfl⟩
    | object h => exact ⟨'\x7b', _, rfl, .inr rfl⟩

end Values

/-! ## Texts -/

section Texts

variable {text : String} {v : Value} {rest : List Char}

theorem checkEnd_eq_ok_iff : checkEnd rest = .ok () ↔ IsBlank rest := by
  rw [checkEnd, ← skipBlank_eq_nil_iff]
  split
  · next h => exact iff_of_true rfl (List.isEmpty_iff.mp h)
  · next h => exact iff_of_false nofun fun hnil => h (List.isEmpty_iff.mpr hnil)

/-- A whole text is what is read, with white space behind it. -/
theorem isText_iff : IsText text v ↔ ∃ rest, readFirst text = .ok (v, rest) ∧ IsBlank rest := by
  have hr := valueReader_reads maxDepth
  constructor
  · rintro ⟨b, t, b', htext, hb, ht, hb'⟩
    refine ⟨b', ?_, hb'⟩
    rw [readFirst, htext]
    exact hr.complete hb ht hb'.closes
  · rintro ⟨rest, hread, hrest⟩
    obtain ⟨b, t, hb, ht, htext⟩ := hr.sound hread
    exact ⟨b, t, rest, htext, hb, ht, hrest⟩

/-- **A text writes a value** exactly if it is parsed as that value. -/
theorem parse_eq_ok_iff : parse text = .ok v ↔ IsText text v := by
  rw [parse, bind_eq_ok_iff, isText_iff]
  constructor
  · rintro ⟨⟨v', rest⟩, hread, h⟩
    obtain ⟨_, hend, h⟩ := bind_eq_ok_iff.mp h
    obtain rfl := pure_eq_ok_iff.mp h
    exact ⟨rest, hread, checkEnd_eq_ok_iff.mp hend⟩
  · rintro ⟨rest, hread, hrest⟩
    refine ⟨(v, rest), hread, bind_eq_ok_iff.mpr ⟨(), checkEnd_eq_ok_iff.mpr hrest, rfl⟩⟩

/-- A text writes one value at most. -/
theorem IsText.unique {v' : Value} (h : IsText text v) (h' : IsText text v') : v = v' := by
  rw [← parse_eq_ok_iff] at h h'
  exact Except.ok.inj (h.symm.trans h')

theorem mapError_eq_ok_iff {ε ε' α : Type} {f : ε → ε'} {x : Except ε α} {a : α} :
    x.mapError f = .ok a ↔ x = .ok a := by
  constructor
  · intro h
    cases x with
    | error e => cases h
    | ok b =>
      cases h
      rfl
  · rintro rfl
    rfl

/-- What is made of a text that writes a value. -/
theorem decode_of_isText {ε α : Type} (f : Value → Except ε α) (h : IsText text v) :
    decode f text = (f v).mapError .rejected := by
  obtain ⟨rest, hread, hrest⟩ := isText_iff.mp h
  rw [decode, hread]
  change ((f v).mapError Failure.rejected >>= fun a => do
    (checkEnd rest).mapError Failure.notJson
    pure a) = _
  rw [checkEnd_eq_ok_iff.mpr hrest]
  cases f v <;> rfl

/-- **Something is made of a text** exactly if it is made of the value that the text writes. -/
theorem decode_eq_ok_iff {ε α : Type} {f : Value → Except ε α} {a : α} :
    decode f text = .ok a ↔ ∃ v, IsText text v ∧ f v = .ok a := by
  constructor
  · intro h
    rw [decode] at h
    obtain ⟨⟨v, rest⟩, hread, h⟩ := bind_eq_ok_iff.mp h
    obtain ⟨a', hf, h⟩ := bind_eq_ok_iff.mp h
    obtain ⟨_, hend, h⟩ := bind_eq_ok_iff.mp h
    obtain rfl := pure_eq_ok_iff.mp h
    refine ⟨v, isText_iff.mpr ⟨rest, mapError_eq_ok_iff.mp hread, ?_⟩, mapError_eq_ok_iff.mp hf⟩
    exact checkEnd_eq_ok_iff.mp (mapError_eq_ok_iff.mp hend)
  · rintro ⟨v, htext, hf⟩
    rw [decode_of_isText f htext, hf]
    rfl

end Texts

end DescriptiveLinks.Json
